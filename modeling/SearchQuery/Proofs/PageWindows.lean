-- The window that a limit and an offset of any kind set on a request. Only a limit with an effect
-- sets one, whole numbers and texts of digits alike; the one thing that can go wrong is a text of
-- more digits than are read, and then nothing is set.
import Mathlib.Data.Nat.Digits.Defs
import SearchQuery.Proofs.PageValues

namespace SearchQuery

/-! ## Numerals -/

/-- A text of decimal digits, of which there is one. -/
def IsNumeral (s : String) : Prop := s ≠ "" ∧ ∀ c ∈ s.toList, '0' ≤ c ∧ c ≤ '9'

/-- The number that digits denote: the last one counts once, and any other ten times as much as
it would in the next place. -/
def numeral (s : String) : Nat :=
  Nat.ofDigits 10 (s.toList.reverse.map fun c => c.toNat - '0'.toNat)

theorem isDigit_iff {c : Char} : c.isDigit = true ↔ '0' ≤ c ∧ c ≤ '9' := by
  simp [Char.isDigit, Char.le_def]

theorem isNumeral_iff {s : String} :
    IsNumeral s ↔ (s != "" && s.toList.all Char.isDigit) = true := by
  simp [IsNumeral, isDigit_iff]

theorem toNat_of_isDigit {c : Char} (h : c.isDigit = true) : 48 ≤ c.toNat ∧ c.toNat ≤ 57 := by
  simpa [Char.isDigit, UInt32.le_iff_toNat_le] using h

namespace Decimal

variable {cs : List Char}

theorem plainDigits_digits (h : ∀ c ∈ cs, c.isDigit = true) : plainDigits cs = cs := by
  unfold plainDigits
  apply if_pos
  rw [List.all_eq_true]
  intro c hc
  have hbounds := toNat_of_isDigit (h c hc)
  simp
  omega

theorem spanGrouped?_cons {c : Char} (b : Bool) (cs : List Char) (h : c.isDigit = true) :
    spanGrouped? b (c :: cs) = (spanGrouped? true cs).map fun (ds, tail) => (c :: ds, tail) := by
  have hline : c ≠ '_' := by
    rintro rfl
    cases h
  rw [spanGrouped?, if_pos h]
  intro heq
  exact hline heq

/-- Digits behind a digit are all read, and nothing is left. -/
theorem spanGrouped?_digits (h : ∀ c ∈ cs, c.isDigit = true) :
    spanGrouped? true cs = some (cs, []) := by
  induction cs with
  | nil => rfl
  | cons c cs ih =>
    have hrest := ih fun d hd => h d (List.mem_cons_of_mem c hd)
    rw [spanGrouped?_cons true cs (h c List.mem_cons_self), hrest]
    rfl

theorem digitsValue_eq (h : ∀ c ∈ cs, c.isDigit = true) :
    digitsValue cs = Nat.ofDigits 10 (cs.reverse.map fun c => c.toNat - '0'.toNat) := by
  have hvalues : cs.filterMap Text.asciiDigit? = cs.map fun c => c.toNat - '0'.toNat := by
    rw [← List.filterMap_eq_map]
    apply List.filterMap_congr
    intro c hc
    simp [Text.asciiDigit?, h c hc]
  unfold digitsValue Text.ofDigits
  rw [hvalues, List.map_reverse, Nat.ofDigits_eq_foldr, List.foldr_reverse]
  simp [Nat.add_comm]

/-- A numeral is read as the number that it denotes, unless it is too long to be read. -/
theorem readInt_numeral {s : String} (h : IsNumeral s) :
    readInt s = if 4300 < s.length then .error (.tooLong s.length) else .ok (numeral s) := by
  have hdigits : ∀ c ∈ s.toList, c.isDigit = true := fun c hc => isDigit_iff.mpr (h.2 c hc)
  have hblank : s.toList.dropWhile Text.isAsciiSpace = s.toList := by
    cases hs : s.toList with
    | nil => rfl
    | cons c cs =>
      have hbounds := toNat_of_isDigit (hdigits c (by simp [hs]))
      apply List.dropWhile_cons_of_neg
      simp [Text.isAsciiSpace]
      omega
  have hsign : splitSign s.toList = (false, s.toList) := by
    cases hs : s.toList with
    | nil => rfl
    | cons c cs =>
      have hdigit := hdigits c (by simp [hs])
      unfold splitSign
      split
      · next heq =>
        cases heq
        cases hdigit
      · next heq =>
        cases heq
        cases hdigit
      · rfl
  have hspan : spanGrouped? false s.toList = some (s.toList, []) := by
    cases hs : s.toList with
    | nil => exact absurd (String.toList_eq_nil_iff.mp hs) h.1
    | cons c cs =>
      rw [hs] at hdigits
      have hrest := spanGrouped?_digits fun d hd => hdigits d (List.mem_cons_of_mem c hd)
      rw [spanGrouped?_cons false cs (hdigits c List.mem_cons_self), hrest]
      rfl
  unfold readInt readPlainInt
  rw [plainDigits_digits hdigits, hblank, hsign]
  dsimp only
  rw [hspan]
  simp only [maxDigits, String.length_toList, digitsValue_eq hdigits, numeral]
  rfl

end Decimal

namespace Page

/-! ## Limits and offsets -/

/-- A value denotes a number from zero up: the number itself does, and a text of its digits. -/
inductive Denotes : Value → Nat → Prop
  | number (n : Nat) : Denotes (.int n) n
  | digits {v : Value} {s : String} : v.text? = some s → IsNumeral s → Denotes v (numeral s)

/-- The value has an effect as a limit: it denotes a number. -/
def IsLimit (v : Value) : Prop := ∃ n, Denotes v n

/-- The value has an effect as an offset: it denotes a number, and is not written as a zero. -/
def IsOffset (v : Value) : Prop := (∃ n, Denotes v n) ∧ v ≠ .int 0 ∧ v.text? ≠ some "0"

/-- The value is a text of more digits than are read. -/
def TooLong (v : Value) : Prop := ∃ s, v.text? = some s ∧ IsNumeral s ∧ 4300 < s.length

/-- Results start at the number that an offset denotes, and at zero where it has no effect. -/
def StartsAt (offset : Value) (n : Nat) : Prop :=
  (IsOffset offset ∧ Denotes offset n) ∨ (¬ IsOffset offset ∧ n = 0)

theorem digits?_eq_some_iff {v : Value} {s : String} :
    digits? v = some s ↔ v.text? = some s ∧ IsNumeral s := by
  unfold digits?
  rw [Option.filter_eq_some_iff, isNumeral_iff]

theorem hasLimit_iff {v : Value} : hasLimit v = true ↔ IsLimit v := by
  unfold hasLimit
  split
  · next n =>
    simp only [decide_eq_true_eq]
    constructor
    · intro hn
      refine ⟨n.toNat, ?_⟩
      have hnat := Denotes.number n.toNat
      rwa [Int.toNat_of_nonneg hn] at hnat
    · rintro ⟨m, hm⟩
      cases hm with
      | number => omega
      | digits htext => cases htext
  · next hint =>
    rw [Option.isSome_iff_exists]
    constructor
    · rintro ⟨s, hs⟩
      obtain ⟨htext, hnumeral⟩ := digits?_eq_some_iff.mp hs
      exact ⟨_, .digits htext hnumeral⟩
    · rintro ⟨m, hm⟩
      cases hm with
      | number => exact absurd rfl (hint _)
      | digits htext hnumeral => exact ⟨_, digits?_eq_some_iff.mpr ⟨htext, hnumeral⟩⟩

theorem hasOffset_iff {v : Value} : hasOffset v = true ↔ IsOffset v := by
  unfold IsOffset
  rw [← IsLimit, ← hasLimit_iff]
  unfold hasOffset hasLimit
  split
  · next n =>
    simp [Value.text?]
    omega
  · next hint =>
    have hzero : v ≠ .int 0 := hint 0
    cases hs : digits? v with
    | none => simp
    | some s =>
      obtain ⟨htext, -⟩ := digits?_eq_some_iff.mp hs
      simp [htext, hzero]

/-! ## Numbers that are read -/

variable {limit offset v : Value}

theorem number_of_text {s : String} (htext : v.text? = some s) (hnumeral : IsNumeral s) :
    number v =
      if 4300 < s.length then .error (.tooManyDigits (some s.length)) else .ok (numeral s) := by
  have hv : number v = intOfText s := by
    unfold number
    split
    · cases htext
    · rw [digits?_eq_some_iff.mpr ⟨htext, hnumeral⟩]
      rfl
  rw [hv]
  unfold intOfText
  rw [Decimal.readInt_numeral hnumeral]
  by_cases hlong : 4300 < s.length
  · simp [hlong]
  · simp [hlong]

theorem number_of_denotes {n : Nat} (h : Denotes v n) (hshort : ¬ TooLong v) :
    number v = .ok n := by
  cases h with
  | number => rfl
  | @digits _ s htext hnumeral =>
    rw [number_of_text htext hnumeral]
    apply if_neg
    intro hlong
    exact hshort ⟨s, htext, hnumeral, hlong⟩

theorem limit?_of_denotes {n : Nat} (h : Denotes v n) (hshort : ¬ TooLong v) :
    limit? v = some (.ok n) := by
  have hlimit : hasLimit v = true := hasLimit_iff.mpr ⟨n, h⟩
  simp [limit?, hlimit, number_of_denotes h hshort]

theorem limit?_of_tooLong (h : TooLong v) :
    ∃ s, v.text? = some s ∧ 4300 < s.length ∧
      limit? v = some (.error (.tooManyDigits (some s.length))) := by
  obtain ⟨s, htext, hnumeral, hlong⟩ := h
  have hlimit : hasLimit v = true := hasLimit_iff.mpr ⟨_, .digits htext hnumeral⟩
  exact ⟨s, htext, hlong, by simp [limit?, hlimit, number_of_text htext hnumeral, hlong]⟩

theorem offset?_of_isOffset (h : IsOffset v) : offset? v = limit? v := by
  have hoffset : hasOffset v = true := hasOffset_iff.mpr h
  have hlimit : hasLimit v = true := hasLimit_iff.mpr h.1
  simp [offset?, limit?, hoffset, hlimit]

theorem offset?_of_not_isOffset (h : ¬ IsOffset v) : offset? v = none := by
  have hoffset : hasOffset v = false := by
    rw [← Bool.not_eq_true, hasOffset_iff]
    exact h
  simp [offset?, hoffset]

/-- The number that results start at is read, unless it is too long. -/
theorem offset?_of_startsAt {n : Nat} (h : StartsAt v n) (hshort : ¬ (IsOffset v ∧ TooLong v)) :
    (offset? v).getD (.ok 0) = .ok n := by
  rcases h with ⟨hoffset, hn⟩ | ⟨hoffset, rfl⟩
  · have hfits : ¬ TooLong v := fun hlong => hshort ⟨hoffset, hlong⟩
    rw [offset?_of_isOffset hoffset, limit?_of_denotes hn hfits]
    rfl
  · rw [offset?_of_not_isOffset hoffset]
    rfl

theorem exists_startsAt (v : Value) : ∃ n, StartsAt v n := by
  by_cases hoffset : IsOffset v
  · obtain ⟨n, hn⟩ := hoffset.1
    exact ⟨n, Or.inl ⟨hoffset, hn⟩⟩
  · exact ⟨0, Or.inr ⟨hoffset, rfl⟩⟩

/-! ## What is set -/

variable (r : Request)

theorem apply_eq :
    apply limit offset r =
      match windowOf (limit? limit) (offset? offset) with
      | .error fault => (.error fault, r)
      | .ok window => (.ok window, push r window) := by
  rw [← window?_eq]
  rfl

theorem apply_without_limit (h : ¬ IsLimit limit) : apply limit offset r = (.ok none, r) := by
  have hlimit : hasLimit limit = false := by
    rw [← Bool.not_eq_true, hasLimit_iff]
    exact h
  rw [apply_eq]
  simp [limit?, hlimit, windowOf, push]

theorem apply_numbers {l o : Nat} (hl : limit? limit = some (.ok l))
    (ho : (offset? offset).getD (.ok 0) = .ok o) :
    apply limit offset r =
      (.ok (some (l, o)), { r with limit := .int l, offset := .int o }) := by
  rw [apply_eq, hl]
  unfold windowOf
  rw [ho]
  rfl

theorem apply_sets {l o : Nat} (hl : Denotes limit l) (ho : StartsAt offset o)
    (hlimit : ¬ TooLong limit) (hoffset : ¬ (IsOffset offset ∧ TooLong offset)) :
    apply limit offset r =
      (.ok (some (l, o)), { r with limit := .int l, offset := .int o }) :=
  apply_numbers r (limit?_of_denotes hl hlimit) (offset?_of_startsAt ho hoffset)

/-- A number that is too long is refused, wherever it stands, and nothing is set. -/
theorem apply_refuses (hlimit : IsLimit limit)
    (hlong : TooLong limit ∨ (IsOffset offset ∧ TooLong offset)) :
    ∃ s, (limit.text? = some s ∨ offset.text? = some s) ∧ 4300 < s.length ∧
      apply limit offset r = (.error (.tooManyDigits (some s.length)), r) := by
  by_cases hlimitLong : TooLong limit
  · obtain ⟨s, htext, hcount, hl⟩ := limit?_of_tooLong hlimitLong
    refine ⟨s, Or.inl htext, hcount, ?_⟩
    rw [apply_eq, hl]
    rfl
  · -- the limit is read already when the offset is found to be too long
    obtain ⟨hoffset, hoffsetLong⟩ := hlong.resolve_left hlimitLong
    obtain ⟨n, hn⟩ := hlimit
    obtain ⟨s, htext, hcount, ho⟩ := limit?_of_tooLong hoffsetLong
    refine ⟨s, Or.inr htext, hcount, ?_⟩
    rw [apply_eq, limit?_of_denotes hn hlimitLong, offset?_of_isOffset hoffset, ho]
    rfl

theorem apply_fails_iff :
    (∃ fault, (apply limit offset r).1 = .error fault) ↔
      IsLimit limit ∧ (TooLong limit ∨ (IsOffset offset ∧ TooLong offset)) := by
  constructor
  · rintro ⟨fault, hfault⟩
    by_cases hlimit : IsLimit limit
    · refine ⟨hlimit, ?_⟩
      by_contra hshort
      obtain ⟨hlimitShort, hoffsetShort⟩ := not_or.mp hshort
      obtain ⟨l, hl⟩ := hlimit
      obtain ⟨o, ho⟩ := exists_startsAt offset
      rw [apply_sets r hl ho hlimitShort hoffsetShort] at hfault
      cases hfault
    · rw [apply_without_limit r hlimit] at hfault
      cases hfault
  · rintro ⟨hlimit, hlong⟩
    obtain ⟨s, -, -, hdone⟩ := apply_refuses r hlimit hlong
    exact ⟨_, by rw [hdone]⟩

/-! ## Digits for a number -/

theorem not_tooLong_int (n : Int) : ¬ TooLong (.int n) := by
  rintro ⟨s, htext, -⟩
  cases htext

theorem not_tooLong_text {s : String} (hshort : s.length ≤ 4300) : ¬ TooLong (.text s) := by
  rintro ⟨t, htext, -, hlong⟩
  cases htext
  omega

theorem startsAt_int (n : Nat) : StartsAt (.int n) n := by
  by_cases hoffset : IsOffset (.int n)
  · exact Or.inl ⟨hoffset, .number n⟩
  · refine Or.inr ⟨hoffset, ?_⟩
    by_contra hn
    apply hoffset
    refine ⟨⟨n, .number n⟩, ?_, by simp [Value.text?]⟩
    intro hzero
    injection hzero with hzero
    omega

theorem startsAt_text {s : String} (hnumeral : IsNumeral s) : StartsAt (.text s) (numeral s) := by
  have hdenotes : Denotes (.text s) (numeral s) := .digits rfl hnumeral
  by_cases hoffset : IsOffset (.text s)
  · exact Or.inl ⟨hoffset, hdenotes⟩
  · refine Or.inr ⟨hoffset, ?_⟩
    by_cases hzero : s = "0"
    · subst hzero
      rfl
    · exact absurd ⟨⟨_, hdenotes⟩, by simp, by simpa [Value.text?] using hzero⟩ hoffset

/-- More zeros than are read have an effect as an offset, and are too long. -/
theorem refused_zeros {n : Nat} (hn : 4300 < n) :
    let v : Value := .text (String.ofList (List.replicate n '0'))
    IsOffset v ∧ TooLong v := by
  intro v
  have hlength : (String.ofList (List.replicate n '0')).length = n := by simp
  have hnumeral : IsNumeral (String.ofList (List.replicate n '0')) := by
    refine ⟨fun hempty => ?_, fun c hc => ?_⟩
    · rw [hempty, String.length_empty] at hlength
      omega
    · rw [String.toList_ofList] at hc
      rw [List.eq_of_mem_replicate hc]
      decide
  refine ⟨⟨⟨_, .digits rfl hnumeral⟩, by simp [v], fun htext => ?_⟩,
    _, rfl, hnumeral, by omega⟩
  have hzero : String.ofList (List.replicate n '0') = "0" := by simpa [v, Value.text?] using htext
  have hone : "0".length = 1 := rfl
  rw [hzero] at hlength
  omega

/-- Digits do what the number does that they denote, as a limit and as an offset. -/
theorem apply_text {s : String} (hnumeral : IsNumeral s) (hshort : s.length ≤ 4300) :
    apply (.text s) offset r = apply (.int (numeral s)) offset r ∧
      apply limit (.text s) r = apply limit (.int (numeral s)) r := by
  have htext := not_tooLong_text hshort
  have hint := not_tooLong_int (numeral s)
  constructor
  · have hl : limit? (.text s) = limit? (.int (numeral s)) := by
      rw [limit?_of_denotes (.digits rfl hnumeral) htext, limit?_of_denotes (.number _) hint]
    rw [apply_eq, apply_eq, hl]
  · have ho : (offset? (.text s)).getD (.ok 0) = (offset? (.int (numeral s))).getD (.ok 0) := by
      rw [offset?_of_startsAt (startsAt_text hnumeral) fun h => htext h.2,
        offset?_of_startsAt (startsAt_int _) fun h => hint h.2]
    rw [apply_eq, apply_eq]
    unfold windowOf
    rw [ho]

/-- Only a limit with an effect sets a window. A limit of any other kind sets nothing, whatever
the offset is. With one, reading fails exactly if it or an offset with an effect is a text of
more digits than are read, and then nothing is set; else the numbers that limit and offset
denote are set and told, and an offset without an effect counts as zero. A text of digits does
what its number does. -/
theorem only_a_limit_with_an_effect_sets_a_window (limit offset : Value) (r : Request) :
    (¬ IsLimit limit → apply limit offset r = (.ok none, r)) ∧
      ((∃ fault, (apply limit offset r).1 = .error fault) ↔
        IsLimit limit ∧ (TooLong limit ∨ (IsOffset offset ∧ TooLong offset))) ∧
      (∀ fault, (apply limit offset r).1 = .error fault →
        (apply limit offset r).2 = r ∧
          ∃ s, (limit.text? = some s ∨ offset.text? = some s) ∧ 4300 < s.length ∧
            fault = .tooManyDigits (some s.length)) ∧
      (∀ l o, Denotes limit l → StartsAt offset o → ¬ TooLong limit →
        ¬ (IsOffset offset ∧ TooLong offset) →
        apply limit offset r =
          (.ok (some (l, o)), { r with limit := .int l, offset := .int o })) ∧
      ∀ s, IsNumeral s → s.length ≤ 4300 →
        apply (.text s) offset r = apply (.int (numeral s)) offset r ∧
          apply limit (.text s) r = apply limit (.int (numeral s)) r := by
  refine ⟨apply_without_limit r, apply_fails_iff r, fun fault hfault => ?_,
    fun l o => apply_sets r, fun s => apply_text r⟩
  obtain ⟨hlimit, hlong⟩ := (apply_fails_iff r).mp ⟨fault, hfault⟩
  obtain ⟨s, htext, hcount, hdone⟩ := apply_refuses r hlimit hlong
  rw [hdone] at hfault ⊢
  cases hfault
  exact ⟨rfl, s, htext, hcount, rfl⟩

/-- Digits with zeros in front are a limit, and without a limit an offset sets nothing. Too many
zeros are refused as an offset, though they denote no more than a few do. -/
theorem seven_results_are_asked_for_in_three_digits :
    let r : Request := { index := some "books" }
    let zeros := String.ofList (List.replicate 4301 '0')
    apply (.text "007") (.text "00") r =
        (.ok (some (7, 0)), { r with limit := .int 7, offset := .int 0 }) ∧
      apply (.text "007") .null r = apply (.int 7) .null r ∧
      apply (.bool true) (.int 3) r = (.ok none, r) ∧
      (∃ fault, (apply (.int 7) (.text zeros) r).1 = .error fault) ∧
      (apply (.int 7) (.text zeros) r).2 = r := by
  intro r zeros
  have hseven : IsNumeral "007" := isNumeral_iff.mpr (by decide)
  have hnought : IsNumeral "00" := isNumeral_iff.mpr (by decide)
  refine ⟨?_, ?_, ?_, ?_⟩
  · obtain ⟨-, -, -, hsets, -⟩ :=
      only_a_limit_with_an_effect_sets_a_window (.text "007") (.text "00") r
    have hlimit : ¬ TooLong (.text "007") := not_tooLong_text (by decide)
    have hoffset : ¬ TooLong (.text "00") := not_tooLong_text (by decide)
    exact hsets 7 0 (.digits rfl hseven) (startsAt_text hnought) hlimit fun h => hoffset h.2
  · obtain ⟨-, -, -, -, hdigits⟩ := only_a_limit_with_an_effect_sets_a_window .null .null r
    exact (hdigits "007" hseven (by decide)).1
  · have hyes : ¬ IsLimit (.bool true) := by
      rw [← hasLimit_iff]
      decide
    exact (only_a_limit_with_an_effect_sets_a_window (.bool true) (.int 3) r).1 hyes
  · obtain ⟨-, hfails, hfault, -⟩ :=
      only_a_limit_with_an_effect_sets_a_window (.int 7) (.text zeros) r
    have hlong := hfails.mpr ⟨⟨7, .number 7⟩, Or.inr (refused_zeros (by decide))⟩
    obtain ⟨fault, hresult⟩ := hlong
    exact ⟨⟨fault, hresult⟩, (hfault fault hresult).1⟩

end Page

/-! ## The window of a prepared query -/

/-- Preparing a query sets its window first, and goes on with the request that this leaves. -/
theorem Spec.prepare_eq (mode : FieldMode) (spec : Spec) (r : Request) :
    spec.prepare mode r =
      match Page.apply spec.limit.toValue spec.offset.toValue r with
      | (.error fault, r) => (.error fault, r)
      | (.ok window, r) =>
        let sort := spec.columns.pushed
        match Condition.compileWhere mode spec.condition with
        | .error fault => (.error fault, r.applySort sort)
        | .ok query =>
          (.ok { query, sort, window, fuzzy := spec.fuzzy },
            (r.applySort sort).withQuery query spec.fuzzy) := by
  unfold prepare Page.apply
  cases Page.window? spec.limit.toValue spec.offset.toValue with
  | error fault => rfl
  | ok window => rfl

end SearchQuery
