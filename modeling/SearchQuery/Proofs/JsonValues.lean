-- What every value that is read from JSON has: a property that passes from the parts of a value
-- to the whole. One such property is that each number in the value can be written again.
import Mathlib.Data.List.Induction
import Mathlib.Data.Nat.Digits.Defs
import SearchQuery.Proofs.JsonReadings
import SearchQuery.Value.Text

namespace SearchQuery

/-! ## Long numbers -/

namespace Decimal

theorem asciiDigit?_lt {c : Char} {d : Nat} (h : Text.asciiDigit? c = some d) : d < 10 := by
  unfold Text.asciiDigit? at h
  split at h
  · next hdigit =>
    cases h
    simp [Char.isDigit, UInt32.le_iff_toNat_le] at hdigit
    omega
  · cases h

/-- Digits denote a number below the power of the base that has one place more. -/
theorem ofDigits_lt {base : Nat} {digits : List Nat} (h : ∀ d ∈ digits, d < base) :
    Text.ofDigits base digits < base ^ digits.length := by
  induction digits using List.reverseRecOn with
  | nil => simp [Text.ofDigits]
  | append_singleton digits d ih =>
    have hd : d < base := h d (by simp)
    have hfront := ih fun d hd => h d (List.mem_append_left _ hd)
    have hlast : Text.ofDigits base (digits ++ [d]) = base * Text.ofDigits base digits + d := by
      simp [Text.ofDigits]
    rw [hlast, List.length_append, List.length_singleton, Nat.pow_succ, Nat.mul_comm _ base]
    calc base * Text.ofDigits base digits + d
        < base * Text.ofDigits base digits + base := by omega
      _ = base * (Text.ofDigits base digits + 1) := by rw [Nat.mul_add, Nat.mul_one]
      _ ≤ base * base ^ digits.length := Nat.mul_le_mul_left base hfront

theorem digitsValue_lt (cs : List Char) : digitsValue cs < 10 ^ cs.length := by
  refine Nat.lt_of_lt_of_le (ofDigits_lt fun d hd => ?_)
    (Nat.pow_le_pow_right (by decide) (List.length_filterMap_le Text.asciiDigit? cs))
  obtain ⟨c, -, hc⟩ := List.mem_filterMap.mp hd
  exact asciiDigit?_lt hc

/-- A number that was read from few enough digits is written with few enough. -/
theorem isOverlong_digitsValue {cs : List Char} {n : Int} (hne : cs ≠ [])
    (hn : n.natAbs = digitsValue cs) (hlength : cs.length ≤ maxDigits) : isOverlong n = false := by
  have hdigits := Nat.toDigits_length 10 n.natAbs cs.length (List.length_pos_iff.mpr hne)
    (hn ▸ digitsValue_lt cs)
  simpa [isOverlong] using hdigits.trans hlength

end Decimal

namespace Json

/-! ## Properties of all values -/

variable {p : Value → Prop}

/-- A property passes from the parts of a value in JSON to the whole. -/
structure Inherited (p : Value → Prop) : Prop where
  text (s : String) : p (.text s)
  word : ∀ e ∈ words, p e.2
  number {cs : List Char} {v : Value} : wholeOf cs ≠ [] → IsValueOf (wholeOf cs) v → p v
  list {items : List Value} : (∀ v ∈ items, p v) → p (.list items)
  empty : p (.map [])
  put {done : List (Value × Value)} {v : Value} (key : String) :
    p (.map done) → p v → p (.map (Entries.put (.text key) v done))

/-- A reading that comes to a value comes to one with a property. -/
def Gives (p : Value → Prop) : Except Stop (Value × List Char) → Prop
  | .ok (v, _) => p v
  | .error _ => True

/-- As long as `fuel` lasts, everything that is read has a property. -/
structure GivingReaders (p : Value → Prop) (fuel : Nat) : Prop where
  value (room : Nat) (cs : List Char) : Gives p (readValue fuel room cs)
  items (room : Nat) {done : List Value} (cs : List Char) (h : ∀ v ∈ done, p v) :
    Gives p (readItems fuel room done cs)
  entries (room : Nat) {done : List (Value × Value)} (cs : List Char) (h : p (.map done)) :
    Gives p (readEntries fuel room done cs)

namespace Inherited

variable (hp : Inherited p)
include hp

theorem gives_number (cs : List Char) : Gives p (readNumber cs) := by
  obtain ⟨-, h⟩ | ⟨hne, v, hv, h⟩ | ⟨-, h⟩ := readNumber_cases cs
  · rw [h]
    trivial
  · rw [h]
    exact hp.number hne hv
  · rw [h]
    trivial

theorem of_readWord? {cs rest : List Char} {v : Value} (h : readWord? cs = some (v, rest)) :
    p v := by
  obtain ⟨⟨word, value⟩, hmem, hword⟩ := List.exists_of_findSome?_eq_some h
  dsimp only at hword
  split at hword
  · cases hword
    exact hp.word _ hmem
  · cases hword

section

variable {fuel : Nat} (h : GivingReaders p fuel) (room : Nat)
include h

theorem further_value (cs : List Char) : Gives p (readValue (fuel + 1) room cs) := by
  unfold readValue
  split
  · next rest =>
    cases readText ('"' :: rest).length [] rest with
    | error => trivial
    | ok => exact hp.text _
  · split
    · trivial
    · exact hp.empty
    · exact h.entries _ _ hp.empty
  · split
    · trivial
    · exact hp.list (by simp)
    · exact h.items _ _ (by simp)
  · split
    · next hword => exact hp.of_readWord? hword
    · exact hp.gives_number cs

theorem further_items {done : List Value} (cs : List Char) (hdone : ∀ v ∈ done, p v) :
    Gives p (readItems (fuel + 1) room done cs) := by
  unfold readItems
  have hfirst := h.value room cs
  cases houtcome : readValue fuel room cs with
  | error => trivial
  | ok found =>
    rw [houtcome] at hfirst
    have hmore : ∀ v ∈ found.1 :: done, p v := List.forall_mem_cons.mpr ⟨hfirst, hdone⟩
    dsimp only [bind, Except.bind]
    split
    · exact hp.list fun v hv => hmore v (List.mem_reverse.mp hv)
    · exact h.items room _ hmore
    · trivial

theorem further_entries {done : List (Value × Value)} (cs : List Char) (hdone : p (.map done)) :
    Gives p (readEntries (fuel + 1) room done cs) := by
  unfold readEntries
  split
  · next rest =>
    cases readText ('"' :: rest).length [] rest with
    | error => trivial
    | ok found =>
      dsimp only [bind, Except.bind]
      split
      · next body _ =>
        have hfirst := h.value room (skip body)
        cases houtcome : readValue fuel room (skip body) with
        | error => trivial
        | ok entry =>
          rw [houtcome] at hfirst
          have hput := hp.put (String.ofList found.1) hdone hfirst
          show Gives p (behindEntry fuel room
            (Entries.put (.text (String.ofList found.1)) entry.1 done) entry.2)
          unfold behindEntry
          split
          · exact hput
          · exact h.entries room _ hput
          · trivial
      · trivial
  · trivial

end

theorem readers (fuel : Nat) : GivingReaders p fuel := by
  induction fuel with
  | zero => exact ⟨fun _ _ => trivial, fun _ _ _ _ => trivial, fun _ _ _ _ => trivial⟩
  | succ fuel ih =>
    exact ⟨hp.further_value ih, fun room _ => hp.further_items ih room,
      fun room _ => hp.further_entries ih room⟩

/-- A property that passes from the parts to the whole is one of every value that is read. -/
theorem of_read {room : Nat} {s : String} {v : Value} (h : read room s = .ok v) : p v := by
  have hmark : s.toList.head? ≠ some '\uFEFF' := fun hmark => by
    rw [read_marked hmark] at h
    cases h
  have hgiven : Gives p (outcomeOf room s) := (hp.readers _).value ..
  rw [read_unmarked room hmark] at h
  generalize outcomeOf room s = outcome at h hgiven
  match outcome with
  | .error (.malformed _ _) | .error (.tooManyDigits _) | .error (.tooDeep _) => cases h
  | .ok (value, tail) =>
    dsimp only at h
    split at h
    · cases h
      exact hgiven
    · cases h

end Inherited

/-! ## Numbers that can be written again -/

theorem isOverlong_put {done : List (Value × Value)} (key : String) {v : Value}
    (hdone : Value.anyOverlongEntry done = false) (hv : v.isOverlong = false) :
    Value.anyOverlongEntry (Entries.put (.text key) v done) = false := by
  induction done with
  | nil => simp [Entries.put, Value.anyOverlongEntry, Value.isOverlong, hv]
  | cons e rest ih =>
    obtain ⟨k, w⟩ := e
    simp only [Value.anyOverlongEntry, Bool.or_eq_false_iff] at hdone
    unfold Entries.put
    split
    · simp [Value.anyOverlongEntry, hdone, hv]
    · simp [Value.anyOverlongEntry, hdone, ih hdone.2]

theorem inherited_short : Inherited fun v => v.isOverlong = false where
  text _ := rfl
  word := by simp [words, Value.isOverlong]
  number hne hv := by
    obtain ⟨x, rfl⟩ | ⟨n, rfl, hn, hlength⟩ := hv
    · rfl
    · exact Decimal.isOverlong_digitsValue hne hn hlength
  list hitems := by simpa [Value.isOverlong, Value.anyOverlong_eq_any] using hitems
  empty := rfl
  put key hdone hv := isOverlong_put key hdone hv

/-- Every number in a value that was read can be written again. -/
theorem isOverlong_read {room : Nat} {s : String} {v : Value} (h : read room s = .ok v) :
    v.isOverlong = false := inherited_short.of_read h

end Json

end SearchQuery
