-- The grammar of JSON texts, and what its reader has to do with it: what is read follows the
-- grammar, and only a text that is very long stops the reader at one of its limits.
import SearchQuery.Proofs.JsonParts

namespace SearchQuery.Json

/-! ## The grammar -/

/-- What a JSON text is put together from. -/
inductive Piece where
  | value
  /-- The items of a list with the bracket behind them. -/
  | items
  /-- A key with its value. -/
  | entry
  /-- The entries of a map with the brace behind them. -/
  | entries

/-- A piece at the front, and what is left behind it. -/
inductive Reads : Piece → List Char → List Char → Prop
  | word {word rest : List Char} : word ∈ words.map Prod.fst → Reads .value (word ++ rest) rest
  | number {cs rest : List Char} : IsNumber cs rest → Reads .value cs rest
  | text {cs rest : List Char} : IsText cs rest → Reads .value ('"' :: cs) rest
  | emptyList {cs rest : List Char} : Blanks cs (']' :: rest) → Reads .value ('[' :: cs) rest
  | list {cs body rest : List Char} :
      Blanks cs body → Reads .items body rest → Reads .value ('[' :: cs) rest
  | emptyMap {cs rest : List Char} :
      Blanks cs ('\x7d' :: rest) → Reads .value ('\x7b' :: cs) rest
  | map {cs body rest : List Char} :
      Blanks cs body → Reads .entries body rest → Reads .value ('\x7b' :: cs) rest
  | lastItem {cs tail rest : List Char} :
      Reads .value cs tail → Blanks tail (']' :: rest) → Reads .items cs rest
  | nextItem {cs tail next body rest : List Char} :
      Reads .value cs tail → Blanks tail (',' :: next) → Blanks next body →
      Reads .items body rest → Reads .items cs rest
  | entry {cs tail next body rest : List Char} :
      IsText cs tail → Blanks tail (':' :: next) → Blanks next body → Reads .value body rest →
      Reads .entry ('"' :: cs) rest
  | lastEntry {cs tail rest : List Char} :
      Reads .entry cs tail → Blanks tail ('\x7d' :: rest) → Reads .entries cs rest
  | nextEntry {cs tail next body rest : List Char} :
      Reads .entry cs tail → Blanks tail (',' :: next) → Blanks next body →
      Reads .entries body rest → Reads .entries cs rest

/-- A whole JSON text: a value among blanks. -/
def IsJson (s : String) : Prop :=
  ∃ body tail, Blanks s.toList body ∧ Reads .value body tail ∧ Blanks tail []

/-! ## The front of a piece -/

section

variable {piece : Piece} {cs rest : List Char}

theorem IsWhole.digits {whole : List Char} (h : IsWhole whole) : ∀ c ∈ whole, c.isDigit := by
  rcases h with rfl | ⟨⟨-, hdigits⟩, -⟩
  · intro c hc
    rw [List.mem_singleton.mp hc]
    rfl
  · exact hdigits

theorem IsNumber.front (h : IsNumber cs rest) :
    ∃ c tail, cs = c :: tail ∧ rest <:+ tail ∧
      (c.isDigit ∨ c = '-' ∧ ∃ d more, tail = d :: more ∧ d.isDigit) := by
  obtain ⟨sign, whole, fraction, exponent, rfl, hsign, hwhole, -⟩ := h
  obtain ⟨d, digits, rfl⟩ := List.exists_cons_of_ne_nil hwhole.ne_nil
  have hd : d.isDigit := hwhole.digits d List.mem_cons_self
  rcases hsign with rfl | rfl
  · exact ⟨d, _, rfl, List.suffix_append _ _, .inl hd⟩
  · exact ⟨'-', _, rfl, List.suffix_append _ _, .inr ⟨rfl, d, _, rfl, hd⟩⟩

theorem plain_digit {c : Char} (h : c.isDigit) :
    c ≠ '\uFEFF' ∧ isBlank c = false ∧ c ≠ ']' ∧ c ≠ '\x7d' := by
  refine ⟨?_, ?_, ?_, ?_⟩
  · rintro rfl
    cases h
  · rw [← Bool.not_eq_true]
    intro hblank
    simp only [isBlank, Bool.or_eq_true, beq_iff_eq] at hblank
    rcases hblank with ((rfl | rfl) | rfl) | rfl <;> cases h
  · rintro rfl
    cases h
  · rintro rfl
    cases h

/-- No piece begins with a byte order mark, a blank or what closes a list or a map. -/
theorem Reads.front (h : Reads piece cs rest) :
    ∃ c tail, cs = c :: tail ∧ rest <:+ tail ∧
      c ≠ '\uFEFF' ∧ isBlank c = false ∧ c ≠ ']' ∧ c ≠ '\x7d' := by
  induction h with
  | word hword =>
    simp only [words, List.map_cons, List.map_nil, List.mem_cons, List.not_mem_nil, or_false]
      at hword
    rcases hword with rfl | rfl | rfl | rfl | rfl | rfl <;>
      exact ⟨_, _, rfl, List.suffix_append _ _, by decide⟩
  | number h =>
    obtain ⟨c, tail, rfl, hrest, hc⟩ := h.front
    refine ⟨c, tail, rfl, hrest, ?_⟩
    rcases hc with hc | ⟨rfl, -⟩
    · exact plain_digit hc
    · decide
  | text h => exact ⟨_, _, rfl, h.suffix, by decide⟩
  | emptyList h | emptyMap h =>
    exact ⟨_, _, rfl, (List.suffix_cons _ _).trans h.suffix, by decide⟩
  | list h _ ih | map h _ ih =>
    obtain ⟨c, tail, rfl, hrest, -⟩ := ih
    exact ⟨_, _, rfl, hrest.trans ((List.suffix_cons _ _).trans h.suffix), by decide⟩
  | lastItem _ h ih | lastEntry _ h ih =>
    obtain ⟨c, tail, rfl, hrest, hc⟩ := ih
    exact ⟨c, tail, rfl, (List.suffix_cons _ _).trans (h.suffix.trans hrest), hc⟩
  | nextItem _ h hnext _ ih ihrest | nextEntry _ h hnext _ ih ihrest =>
    obtain ⟨c, tail, rfl, hrest, hc⟩ := ih
    obtain ⟨_, _, rfl, hmore, -⟩ := ihrest
    exact ⟨c, tail, rfl, hmore.trans ((List.suffix_cons _ _).trans (hnext.suffix.trans
      ((List.suffix_cons _ _).trans (h.suffix.trans hrest)))), hc⟩
  | entry htext h hnext _ ih =>
    obtain ⟨_, _, rfl, hmore, -⟩ := ih
    exact ⟨_, _, rfl, hmore.trans ((List.suffix_cons _ _).trans (hnext.suffix.trans
      ((List.suffix_cons _ _).trans (h.suffix.trans htext.suffix)))), by decide⟩

theorem Reads.suffix (h : Reads piece cs rest) : rest <:+ cs := by
  obtain ⟨c, tail, rfl, hrest, -⟩ := h.front
  exact hrest.trans (List.suffix_cons c tail)

theorem Reads.length_lt (h : Reads piece cs rest) : rest.length < cs.length := by
  obtain ⟨c, tail, rfl, hrest, -⟩ := h.front
  exact Nat.lt_succ_of_le hrest.length_le

end

/-! ## What is read follows the grammar -/

def isOpening (c : Char) : Bool := c == '[' || c == '\x7b'

/-- What is true of an outcome where lists and maps can lie `room` times inside each other. -/
def Fair (piece : Piece) (room : Nat) (cs : List Char) :
    Except Stop (Value × List Char) → Prop
  | .ok (_, rest) => Reads piece cs rest
  | .error (.malformed ..) => True
  | .error (.tooManyDigits _) => Decimal.maxDigits < cs.countP Char.isDigit
  | .error (.tooDeep _) => room < cs.countP isOpening

section

variable {piece part : Piece} {room : Nat} {cs body rest : List Char} {stop : Stop}

/-- An outcome that is fair for the last part of a piece is fair for the piece. -/
theorem Fair.whole {outcome : Except Stop (Value × List Char)} (h : Fair part room body outcome)
    (hpart : body <:+ cs) (hreads : ∀ rest, Reads part body rest → Reads piece cs rest) :
    Fair piece room cs outcome := by
  match outcome, h with
  | .ok (_, rest), h => exact hreads rest h
  | .error (.malformed ..), _ => trivial
  | .error (.tooManyDigits _), h | .error (.tooDeep _), h =>
    exact Nat.lt_of_lt_of_le h hpart.sublist.countP_le

theorem Fair.stopped {stop : Stop} (h : Fair part room body (.error stop)) (hpart : body <:+ cs) :
    Fair piece room cs (.error stop) := by
  cases stop with
  | malformed => trivial
  | tooManyDigits | tooDeep => exact Nat.lt_of_lt_of_le h hpart.sublist.countP_le

/-- So is one for what stands between brackets, where there is less room. -/
theorem Fair.inside {outcome : Except Stop (Value × List Char)} {c : Char} (hc : isOpening c)
    (h : Fair part room body outcome) (hpart : body <:+ cs)
    (hreads : ∀ rest, Reads part body rest → Reads piece (c :: cs) rest) :
    Fair piece (room + 1) (c :: cs) outcome := by
  match outcome, h with
  | .ok (_, rest), h => exact hreads rest h
  | .error (.malformed ..), _ => trivial
  | .error (.tooManyDigits _), h =>
    exact Nat.lt_of_lt_of_le h (hpart.trans (List.suffix_cons c cs)).sublist.countP_le
  | .error (.tooDeep _), h =>
    show room + 1 < (c :: cs).countP isOpening
    rw [List.countP_cons_of_pos hc]
    exact Nat.succ_lt_succ (Nat.lt_of_lt_of_le h hpart.sublist.countP_le)

theorem readUnit_error {digits : List Char} (h : readUnit digits = .error stop) :
    ∃ problem left, stop = .malformed problem left := by
  unfold readUnit at h
  dsimp only at h
  repeat' split at h
  all_goals
    cases h
    try exact ⟨_, _, rfl⟩

theorem readText_error {opening : Nat} {done : List Char}
    (h : readText opening done cs = .error stop) :
    ∃ problem left, stop = .malformed problem left := by
  fun_induction readText opening done cs with
  | case1 | case3 | case7 | case8 =>
    cases h
    exact ⟨_, _, rfl⟩
  | case2 => cases h
  | case4 done c hquote hslash digits stop hunit =>
    cases h
    exact readUnit_error hunit
  | case5 done c hquote hslash digits char used hunit ih => exact ih h
  | case6 done c hquote hslash letter more hletter char hescape ih => exact ih h
  | case9 done c tail hquote hslash hcontrol ih => exact ih h

theorem length_wholeOf_le (cs : List Char) : (wholeOf cs).length ≤ cs.countP Char.isDigit := by
  obtain ⟨hminus, -⟩ := spanMinus_sound cs
  obtain ⟨hwhole, his⟩ := spanWhole_sound (spanMinus cs).2
  by_cases hne : wholeOf cs = []
  · rw [hne]
    exact Nat.zero_le _
  · have hsublist : (wholeOf cs).Sublist ((spanMinus cs).1 ++ (spanMinus cs).2) := by
      refine List.Sublist.trans ?_ (List.sublist_append_right _ _)
      unfold wholeOf
      exact List.IsPrefix.sublist ⟨_, hwhole.symm⟩
    rw [← hminus] at hsublist
    calc (wholeOf cs).length = (wholeOf cs).countP Char.isDigit :=
          (List.countP_eq_length.mpr (his hne).digits).symm
      _ ≤ cs.countP Char.isDigit := hsublist.countP_le

theorem fair_readNumber (room : Nat) (cs : List Char) :
    Fair .value room cs (readNumber cs) := by
  obtain ⟨-, h⟩ | ⟨hne, v, -, h⟩ | ⟨hlong, h⟩ := readNumber_cases cs
  · rw [h]
    trivial
  · rw [h]
    exact .number (readNumber_sound hne)
  · rw [h]
    exact Nat.lt_of_lt_of_le hlong (length_wholeOf_le cs)

theorem readWord?_sound {v : Value} (h : readWord? cs = some (v, rest)) :
    ∃ word ∈ words.map Prod.fst, cs = word ++ rest := by
  obtain ⟨⟨word, value⟩, hmem, hword⟩ := List.exists_of_findSome?_eq_some h
  dsimp only at hword
  split at hword
  · rename_i hprefix
    cases hword
    obtain ⟨tail, rfl⟩ := List.isPrefixOf_iff_prefix.mp hprefix
    rw [List.drop_left]
    exact ⟨word, List.mem_map_of_mem hmem, rfl⟩
  · cases hword

theorem skip_suffix (cs : List Char) : skip cs <:+ cs := (blanks_skip cs).suffix

theorem blanks_of_skip {cs rest : List Char} (h : skip cs = rest) : Blanks cs rest :=
  h ▸ blanks_skip cs

end

/-- As long as `fuel` lasts, the three readers are fair. -/
structure FairReaders (fuel : Nat) : Prop where
  value (room : Nat) (cs : List Char) : Fair .value room cs (readValue fuel room cs)
  items (room : Nat) (done : List Value) (cs : List Char) :
    Fair .items room cs (readItems fuel room done cs)
  entries (room : Nat) (done : List (Value × Value)) (cs : List Char) :
    Fair .entries room cs (readEntries fuel room done cs)

namespace FairReaders

variable {fuel : Nat} (h : FairReaders fuel) (room : Nat)
include h

theorem further_value (cs : List Char) : Fair .value room cs (readValue (fuel + 1) room cs) := by
  unfold readValue
  split
  · rename_i rest
    cases htext : readText ('"' :: rest).length [] rest with
    | error stop =>
      obtain ⟨problem, left, rfl⟩ := readText_error htext
      trivial
    | ok found => exact .text (readText_sound htext)
  · rename_i rest
    split
    · simp [Fair, isOpening]
    · rename_i hskip
      exact .emptyMap (blanks_of_skip hskip)
    · exact (h.entries _ [] _).inside rfl (skip_suffix rest) fun _ => .map (blanks_skip rest)
  · rename_i rest
    split
    · simp [Fair, isOpening]
    · rename_i hskip
      exact .emptyList (blanks_of_skip hskip)
    · exact (h.items _ [] _).inside rfl (skip_suffix rest) fun _ => .list (blanks_skip rest)
  · split
    · rename_i found hword
      obtain ⟨word, hmem, rfl⟩ := readWord?_sound hword
      exact .word hmem
    · exact fair_readNumber room cs

theorem further_items (done : List Value) (cs : List Char) :
    Fair .items room cs (readItems (fuel + 1) room done cs) := by
  unfold readItems
  have hfirst := h.value room cs
  cases houtcome : readValue fuel room cs with
  | error stop =>
    rw [houtcome] at hfirst
    exact hfirst.stopped List.suffix_rfl
  | ok found =>
    obtain ⟨value, tail⟩ := found
    rw [houtcome] at hfirst
    dsimp only [bind, Except.bind]
    split
    · rename_i hskip
      exact .lastItem hfirst (blanks_of_skip hskip)
    · rename_i next hskip
      have hblanks := blanks_of_skip hskip
      have hnext : skip next <:+ cs :=
        (skip_suffix next).trans ((List.suffix_cons _ _).trans
          (hblanks.suffix.trans (Reads.suffix hfirst)))
      exact (h.items room _ _).whole hnext fun _ => .nextItem hfirst hblanks (blanks_skip next)
    · trivial

theorem further_entries (done : List (Value × Value)) (cs : List Char) :
    Fair .entries room cs (readEntries (fuel + 1) room done cs) := by
  unfold readEntries
  split
  · rename_i rest
    cases htext : readText ('"' :: rest).length [] rest with
    | error stop =>
      obtain ⟨problem, left, rfl⟩ := readText_error htext
      trivial
    | ok found =>
      obtain ⟨key, afterKey⟩ := found
      have hkey := readText_sound htext
      dsimp only [bind, Except.bind]
      split
      · rename_i body hcolon
        have hcolon := blanks_of_skip hcolon
        have hbody : skip body <:+ '"' :: rest :=
          (skip_suffix body).trans ((List.suffix_cons _ _).trans
            (hcolon.suffix.trans (hkey.suffix.trans (List.suffix_cons _ _))))
        have hfirst := h.value room (skip body)
        cases houtcome : readValue fuel room (skip body) with
        | error stop =>
          rw [houtcome] at hfirst
          exact hfirst.stopped hbody
        | ok found =>
          obtain ⟨value, tail⟩ := found
          rw [houtcome] at hfirst
          have hentry := Reads.entry hkey hcolon (blanks_skip body) hfirst
          dsimp only
          split
          · rename_i hskip
            exact .lastEntry hentry (blanks_of_skip hskip)
          · rename_i next hskip
            have hblanks := blanks_of_skip hskip
            have hnext : skip next <:+ '"' :: rest :=
              (skip_suffix next).trans ((List.suffix_cons _ _).trans
                (hblanks.suffix.trans hentry.suffix))
            exact (h.entries room _ _).whole hnext fun _ =>
              .nextEntry hentry hblanks (blanks_skip next)
          · trivial
      · trivial
  · trivial

end FairReaders

theorem fairReaders (fuel : Nat) : FairReaders fuel := by
  induction fuel with
  | zero => exact ⟨fun _ _ => trivial, fun _ _ _ => trivial, fun _ _ _ => trivial⟩
  | succ fuel ih => exact ⟨ih.further_value, ih.further_items, ih.further_entries⟩

end SearchQuery.Json
