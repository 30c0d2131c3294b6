-- Bytes read as UTF-8 text. Where they are no such text, each longest piece that could have
-- started a character becomes one replacement character. A text is written in UTF-8 unless it
-- holds half of a pair.
import SearchQuery.Text.Digit
import SearchQuery.Text.Half

namespace SearchQuery.Text

/-- A character that is begun: its bits so far, the bytes that are missing, and the range
of the next one. -/
structure Begun where
  bits : Nat
  missing : Nat
  low : Nat := 0x80
  high : Nat := 0xBF

/-- What the first byte of a character begins: a character of one byte, a longer one, or
nothing. -/
def firstByte (b : Nat) : Char ⊕ Option Begun :=
  if b < 0x80 then .inl (Char.ofNat b)
  else if 0xC2 ≤ b && b ≤ 0xDF then .inr (some ⟨b - 0xC0, 1, 0x80, 0xBF⟩)
  else if b == 0xE0 then .inr (some ⟨0, 2, 0xA0, 0xBF⟩)
  else if b == 0xED then .inr (some ⟨0xD, 2, 0x80, 0x9F⟩)
  else if 0xE1 ≤ b && b ≤ 0xEF then .inr (some ⟨b - 0xE0, 2, 0x80, 0xBF⟩)
  else if b == 0xF0 then .inr (some ⟨0, 3, 0x90, 0xBF⟩)
  else if b == 0xF4 then .inr (some ⟨4, 3, 0x80, 0x8F⟩)
  else if 0xF1 ≤ b && b ≤ 0xF3 then .inr (some ⟨b - 0xF0, 3, 0x80, 0xBF⟩)
  else .inr none

/-- The character in place of bytes that make none. -/
def replacement : Char := '\uFFFD'

/-- The characters of bytes, the first of which may go on with a character. -/
def decodeFrom : Option Begun → List UInt8 → List Char
  | none, [] => []
  | some _, [] => [replacement]
  | begun, b :: rest =>
    let fresh : List Char :=
      match firstByte b.toNat with
      | .inl c => c :: decodeFrom none rest
      | .inr (some next) => decodeFrom (some next) rest
      | .inr none => replacement :: decodeFrom none rest
    match begun with
    | none => fresh
    | some part =>
      let n := b.toNat
      if part.low ≤ n && n ≤ part.high then
        let bits := 64 * part.bits + (n - 0x80)
        if part.missing == 1 then Char.ofNat bits :: decodeFrom none rest
        else decodeFrom (some ⟨bits, part.missing - 1, 0x80, 0xBF⟩) rest
      else replacement :: fresh

/-- The text of bytes. -/
def decode (bytes : List UInt8) : String := String.ofList (decodeFrom none bytes)

/-- What is said against writing a text in UTF-8: where its first halves of pairs are. -/
def utf8Refusal? (s : String) : Option String :=
  let plain := s.toList.takeWhile (!isHalfChar ·)
  match s.toList.dropWhile (!isHalfChar ·) with
  | [] => none
  | half :: rest =>
    let more := (rest.takeWhile isHalfChar).length
    let place := toString plain.length
    let found :=
      if more == 0 then
        " '\\u" ++ String.ofList (hexText 4 (code half)) ++ "' in position " ++ place
      else "s in position " ++ place ++ "-" ++ toString (plain.length + more)
    some ("'utf-8' codec can't encode character" ++ found ++ ": surrogates not allowed")

/-- Exactly the texts without halves of pairs are written. -/
theorem utf8Refusal?_eq_none {s : String} :
    utf8Refusal? s = none ↔ ∀ c ∈ s.toList, isHalfChar c = false := by
  have hcut := List.takeWhile_append_dropWhile (p := (!isHalfChar ·)) (l := s.toList)
  unfold utf8Refusal?
  dsimp only
  cases hrest : s.toList.dropWhile (!isHalfChar ·) with
  | nil =>
    rw [hrest, List.append_nil] at hcut
    refine iff_of_true rfl fun c hc => ?_
    rw [← hcut] at hc
    simpa using List.all_eq_true.mp List.all_takeWhile c hc
  | cons half rest =>
    have hhalf := List.head?_dropWhile_not (!isHalfChar ·) s.toList
    rw [hrest] at hhalf hcut
    refine iff_of_false nofun fun h => ?_
    have hmem : half ∈ s.toList := hcut ▸ List.mem_append_right _ List.mem_cons_self
    simp [h half hmem] at hhalf

end SearchQuery.Text
