-- Filtering leaves conditions that still filter: what is left has a text, unless it is a row
-- of tokens without a text, or put together from such rows only. A row has no text if there
-- is nothing in it, or if the fields in it are decided by alternatives of which there are none.
import SearchQuery.Builder
import SearchQuery.Proofs.Meanings

namespace SearchQuery

open Text

/-! ## Empty texts -/

theorem groups_eq_empty_iff {word : String} {es : List String} : groups word es = "" ↔ es = [] := by
  match es with
  | [] => simp [groups]
  | [e] => simp [groups]
  | e :: f :: es => simp [groups_cons_cons]

/-- Under a known word the operands have an empty text exactly if each of them has. -/
theorem operatorText_eq_empty_iff {name : String} {parts : List String} :
    operatorText name parts = .ok "" ↔
      (Operator.ofName? name).isSome ∧ (name = "NOT" → parts.length = 1) ∧ ∀ p ∈ parts, p = "" := by
  cases hop : Operator.ofName? name with
  | none => simp [operatorText, hop]
  | some o =>
    have hname := Operator.ofName?_eq_some_iff.mp hop
    cases o with
    | and | or =>
      rw [operatorText_junction (by simp [hname, Operator.name]), Except.ok.injEq,
        groups_eq_empty_iff]
      simp [hname, Operator.name]
    | not =>
      have hnot : Operator.ofName? "NOT" = some .not := Operator.ofName?_name .not
      rw [hname, Operator.name]
      obtain - | ⟨p, - | ⟨q, parts⟩⟩ := parts <;>
        simp [operatorText, negationText, hnot]
    | wild =>
      have hwild : Operator.ofName? "WILD" = some .wild := Operator.ofName?_name .wild
      rw [hname, Operator.name]
      by_cases hempty : ∀ p ∈ parts, p = ""
      · have hall : parts.all (· == "") = true := by simpa using hempty
        simpa [operatorText, hwild, hall] using hempty
      · have hgap : " ".intercalate parts ≠ "" := fun h => hempty (intercalate_eq_empty h)
        simp [operatorText, hwild, hempty, hgap]

theorem joined_eq_empty_iff {word : String} {parts : List String} (h : ∀ p ∈ parts, p ≠ "") :
    joined word parts = "" ↔ parts = [] := by
  match parts with
  | [] => simp [joined]
  | [p] => simpa [joined] using h
  | p :: q :: parts => simp [joined_cons_cons, groups_eq_empty_iff]

theorem alternatives_eq_empty_iff {field : String} {texts : List String} :
    alternatives field texts = "" ↔ texts = [] := by
  rw [alternatives, joined_eq_empty_iff, List.map_eq_nil_iff]
  intro p hp
  obtain ⟨t, -, rfl⟩ := List.mem_map.mp hp
  exact onePart_ne_empty field t

theorem fieldPart?_many {field : String} {texts : List String} (h : texts ≠ []) :
    fieldPart? (field, .many texts) = some (alternatives field texts) := by
  have hgroup : alternatives field texts ≠ "" := mt alternatives_eq_empty_iff.mp h
  simp [fieldPart?, hgroup]

theorem parts_ne_empty {entries : List (String × FieldValue)} {part : String}
    (h : part ∈ entries.filterMap fieldPart?) : part ≠ "" := by
  obtain ⟨entry, -, hpart⟩ := List.mem_filterMap.mp h
  rintro rfl
  exact fieldPart?_ne_empty entry hpart

/-- Fields have no text only if the alternatives that decide are none, or if no field has a
part. -/
theorem fieldsText_eq_empty {mode : FieldMode} {entries : List (String × FieldValue)}
    (h : fieldsText mode entries = "") :
    (mode = .firstAlternatives ∧ ∃ field, firstMany? entries = some (field, [])) ∨
      ∀ entry ∈ entries, fieldPart? entry = none := by
  rw [fieldsText_eq] at h
  split at h
  · next field texts hfirst =>
    rw [alternatives_eq_empty_iff] at h
    exact Or.inl ⟨rfl, field, h ▸ hfirst⟩
  · rw [joined_eq_empty_iff, List.filterMap_eq_nil_iff] at h
    · exact Or.inr h
    · exact fun _ => parts_ne_empty

/-- A field that is asked for something has a part. -/
theorem exists_fieldPart {entry : String × FieldValue} (h : entry.2.isEmpty = false) :
    ∃ part, fieldPart? entry = some part := by
  obtain ⟨field, value⟩ := entry
  cases value with
  | absent => cases h
  | one text => exact ⟨_, rfl⟩
  | many texts =>
    have htexts : texts ≠ [] := by simpa [FieldValue.isEmpty] using h
    exact ⟨_, fieldPart?_many htexts⟩

/-- Fields that are all asked for something have a text. -/
theorem fieldsText_ne_empty {mode : FieldMode} {entries : List (String × FieldValue)}
    (hne : entries ≠ []) (hasked : ∀ entry ∈ entries, entry.2.isEmpty = false) :
    fieldsText mode entries ≠ "" := by
  intro hempty
  rcases fieldsText_eq_empty hempty with ⟨-, field, hfirst⟩ | hnone
  · have hmany := hasked _ (firstMany?_mem hfirst)
    cases hmany
  · obtain ⟨entry, hentry⟩ := List.exists_mem_of_ne_nil entries hne
    obtain ⟨part, hpart⟩ := exists_fieldPart (hasked entry hentry)
    rw [hnone entry hentry] at hpart
    cases hpart

namespace Condition

variable {mode : FieldMode}

/-- A compound condition has the empty text exactly if its word is known, its operands are as
many as the word wants, and each of them has the empty text. -/
theorem compound_eq_empty_iff {name : String} {operands : List Condition} :
    compile mode (.compound name operands) = .ok "" ↔
      (Operator.ofName? name).isSome ∧ (name = "NOT" → operands.length = 1) ∧
        ∀ o ∈ operands, compile mode o = .ok "" := by
  rw [compile_compound_eq_ok_iff]
  constructor
  · rintro ⟨parts, hparts, htext⟩
    obtain ⟨hknown, hcount, hempty⟩ := operatorText_eq_empty_iff.mp htext
    refine ⟨hknown, count_of_parts hparts ▸ hcount, fun o ho => ?_⟩
    obtain ⟨part, hpart, hc⟩ := exists_part_of_operand hparts ho
    rw [hc, hempty part hpart]
  · rintro ⟨hknown, hcount, hempty⟩
    obtain ⟨parts, hparts⟩ := exists_parts fun o ho => ⟨"", hempty o ho⟩
    refine ⟨parts, hparts, operatorText_eq_empty_iff.mpr
      ⟨hknown, count_of_parts hparts ▸ hcount, fun p hp => ?_⟩⟩
    obtain ⟨o, ho, hc⟩ := exists_operand_of_part hparts hp
    rw [hempty o ho, Except.ok.injEq] at hc
    exact hc.symm

/-! ## What filtering leaves -/

/-- All that can be left of a compound condition: the junction or the negation of what is left
of its operands, of which there is some; a negation of several operands as it is; or a
condition under another word as it is, if something is left of each operand. -/
theorem filtered_compound_cases {name : String} {operands : List Condition} {node : Condition}
    (h : filtered (.compound name operands) = some node) :
    (∃ o kept, o ≠ .wild ∧ name = Operator.name o ∧ node = .compound name kept ∧
      (o = .not → kept.length = 1) ∧ kept ≠ [] ∧
      ∀ k ∈ kept, ∃ c ∈ operands, c.filtered = some k) ∨
    (name = "NOT" ∧ operands.length ≠ 1 ∧ node = .compound name operands) ∨
    ((name = "WILD" ∨ Operator.ofName? name = none) ∧ node = .compound name operands ∧
      ∀ c ∈ operands, c.filtered.isSome) := by
  rcases compound_kinds name operands with hname | ⟨o, rfl, rfl⟩ | ⟨rfl, hcount⟩ | hrow
  · rw [filtered_junction hname] at h
    dsimp only at h
    split at h
    · cases h
    · next hne =>
      cases h
      have hmem : ∀ k ∈ operands.filterMap filtered, ∃ c ∈ operands, c.filtered = some k := by
        intro k hk
        exact List.mem_filterMap.mp hk
      rcases hname with rfl | rfl
      · exact Or.inl ⟨.and, _, by simp, rfl, rfl, by simp, hne, hmem⟩
      · exact Or.inl ⟨.or, _, by simp, rfl, rfl, by simp, hne, hmem⟩
  · rw [filtered_negation] at h
    obtain ⟨k, hk, rfl⟩ := Option.map_eq_some_iff.mp h
    refine Or.inl ⟨.not, [k], by simp, rfl, rfl, by simp, by simp, fun k' hk' => ?_⟩
    rw [List.mem_singleton.mp hk']
    exact ⟨o, List.mem_singleton_self o, hk⟩
  · rw [filtered_malformed hcount] at h
    cases h
    exact Or.inr (Or.inl ⟨rfl, hcount, rfl⟩)
  · rw [filtered_row hrow] at h
    split at h
    · cases h
    · next hall =>
      cases h
      have hleft : ∀ c ∈ operands, c.filtered.isSome := by
        simpa [Option.isSome_iff_ne_none] using hall
      refine Or.inr (Or.inr ⟨?_, rfl, hleft⟩)
      cases hop : Operator.ofName? name with
      | none => exact Or.inr rfl
      | some o =>
        have hname := Operator.ofName?_eq_some_iff.mp hop
        cases o with
        | and | or | not => simp [hname, Operator.name] at hrow
        | wild => exact Or.inl hname

/-- What is left of fields are those that are asked for something, of which there is one. -/
theorem filtered_fields_cases {entries : List (String × FieldValue)} {node : Condition}
    (h : filtered (.fields entries) = some node) :
    ∃ kept, node = .fields kept ∧ kept ≠ [] ∧
      ∀ entry ∈ kept, entry ∈ entries ∧ entry.2.isEmpty = false := by
  rw [filtered] at h
  split at h
  · cases h
  · next kept hne =>
    cases h
    exact ⟨_, rfl, hne, fun entry hentry => by simpa using hentry⟩

/-! ## Hollow conditions -/

/-- A condition without a text that is left by filtering: a row of tokens without a text, or
put together from such rows. -/
inductive Hollow (mode : FieldMode) : Condition → Prop
  | row {operands : List Condition} : (∀ o ∈ operands, compile mode o = .ok "") →
      Hollow mode (.compound "WILD" operands)
  | around {o : Operator} {operands : List Condition} : o ≠ .wild →
      (o = .not → operands.length = 1) → (∀ c ∈ operands, Hollow mode c) →
      Hollow mode (.compound o.name operands)

theorem Hollow.compiles {c : Condition} (h : Hollow mode c) : compile mode c = .ok "" := by
  induction h with
  | row hempty => exact compound_eq_empty_iff.mpr ⟨rfl, by simp, hempty⟩
  | @around o operands _ hcount _ ih =>
    refine compound_eq_empty_iff.mpr ⟨by rw [Operator.ofName?_name]; rfl, fun hname => ?_, ih⟩
    exact hcount (by cases o <;> simp [Operator.name] at hname ⊢)

/-- What filtering leaves has no text exactly if it is hollow. -/
theorem compiles_empty_iff_hollow {c node : Condition} (h : c.filtered = some node) :
    compile mode node = .ok "" ↔ Hollow mode node := by
  refine ⟨fun hempty => ?_, Hollow.compiles⟩
  induction c using treeInduction generalizing node with
  | literal text =>
    rw [filtered] at h
    split at h
    · cases h
    · next hblank =>
      cases h
      cases hempty
      contradiction
  | fields entries =>
    obtain ⟨kept, rfl, hne, hkept⟩ := filtered_fields_cases h
    rw [compile, Except.ok.injEq] at hempty
    exact absurd hempty (fieldsText_ne_empty hne fun entry hentry => (hkept entry hentry).2)
  | compound name operands ih =>
    rcases filtered_compound_cases h with ⟨o, kept, hwild, rfl, rfl, hcount, -, hkept⟩ |
      ⟨hname, hcount, rfl⟩ | ⟨hname, rfl, -⟩
    · obtain ⟨-, -, htexts⟩ := compound_eq_empty_iff.mp hempty
      refine .around hwild hcount fun k hk => ?_
      obtain ⟨c, hc, hfiltered⟩ := hkept k hk
      exact ih c hc hfiltered (htexts k hk)
    · exact absurd ((compound_eq_empty_iff.mp hempty).2.1 hname) hcount
    · obtain ⟨hknown, -, htexts⟩ := compound_eq_empty_iff.mp hempty
      rcases hname with rfl | hunknown
      · exact .row htexts
      · rw [hunknown] at hknown
        cases hknown

theorem Hollow.compound_cases {name : String} {operands : List Condition}
    (h : Hollow mode (.compound name operands)) :
    (name = "WILD" ∧ ∀ o ∈ operands, compile mode o = .ok "") ∨
      (name ≠ "WILD" ∧ ∀ o ∈ operands, Hollow mode o) := by
  generalize hc : Condition.compound name operands = c at h
  cases h with
  | row hempty =>
    injection hc with hname hoperands
    exact Or.inl ⟨hname, hoperands ▸ hempty⟩
  | @around o _ hwild _ hhollow =>
    injection hc with hname hoperands
    refine Or.inr ⟨?_, hoperands ▸ hhollow⟩
    cases o <;> simp [hname, Operator.name] at hwild ⊢

/-! ## Where hollow conditions come from -/

/-- Fields stand in the condition that are decided by alternatives of which there are none. -/
def HasNoAlternatives (mode : FieldMode) (c : Condition) : Prop :=
  mode = .firstAlternatives ∧
    ∃ entries field, Within (.fields entries) c ∧ firstMany? entries = some (field, [])

/-- A row of tokens stands in the condition that has none, or has fields without alternatives
among them. -/
def HasEmptyRow (mode : FieldMode) (c : Condition) : Prop :=
  ∃ operands, Within (.compound "WILD" operands) c ∧
    (operands = [] ∨ ∃ o ∈ operands, HasNoAlternatives mode o)

theorem HasNoAlternatives.under {name : String} {operands : List Condition} {o : Condition}
    (ho : o ∈ operands) (h : HasNoAlternatives mode o) :
    HasNoAlternatives mode (.compound name operands) := by
  obtain ⟨hmode, entries, field, hin, hfirst⟩ := h
  exact ⟨hmode, entries, field, .operand ho hin, hfirst⟩

theorem HasEmptyRow.under {name : String} {operands : List Condition} {o : Condition}
    (ho : o ∈ operands) (h : HasEmptyRow mode o) : HasEmptyRow mode (.compound name operands) := by
  obtain ⟨row, hin, hempty⟩ := h
  exact ⟨row, .operand ho hin, hempty⟩

/-- A condition without a text of which filtering leaves something has an empty row in it, or
fields without alternatives. The induction is on the condition: something is left of one of
its operands at least, and none of them has a text. -/
theorem silent_cases {c : Condition} (hkept : c.filtered.isSome)
    (hempty : compile mode c = .ok "") :
    HasEmptyRow mode c ∨ HasNoAlternatives mode c := by
  induction c using treeInduction with
  | literal text =>
    cases hempty
    cases hkept
  | fields entries =>
    obtain ⟨node, hnode⟩ := Option.isSome_iff_exists.mp hkept
    obtain ⟨kept, -, hne, hmem⟩ := filtered_fields_cases hnode
    rw [compile, Except.ok.injEq] at hempty
    rcases fieldsText_eq_empty hempty with ⟨hmode, field, hfirst⟩ | hnone
    · exact Or.inr ⟨hmode, entries, field, .whole, hfirst⟩
    · obtain ⟨entry, hentry⟩ := List.exists_mem_of_ne_nil kept hne
      obtain ⟨hin, hasked⟩ := hmem entry hentry
      obtain ⟨part, hpart⟩ := exists_fieldPart hasked
      rw [hnone entry hin] at hpart
      cases hpart
  | compound name operands ih =>
    obtain ⟨hknown, hcount, htexts⟩ := compound_eq_empty_iff.mp hempty
    have hfrom : ∀ o ∈ operands, o.filtered.isSome →
        HasEmptyRow mode (.compound name operands) ∨
          HasNoAlternatives mode (.compound name operands) := fun o ho hsome =>
      (ih o ho hsome (htexts o ho)).imp (.under ho) (.under ho)
    obtain ⟨node, hnode⟩ := Option.isSome_iff_exists.mp hkept
    rcases filtered_compound_cases hnode with ⟨-, kept, -, -, -, -, hne, hmem⟩ |
      ⟨hname, hmany, -⟩ | ⟨hname, -, hall⟩
    · obtain ⟨k, hk⟩ := List.exists_mem_of_ne_nil kept hne
      obtain ⟨o, ho, hfiltered⟩ := hmem k hk
      exact hfrom o ho (Option.isSome_iff_exists.mpr ⟨k, hfiltered⟩)
    · exact absurd (hcount hname) hmany
    · rcases hname with rfl | hunknown
      · cases operands with
        | nil => exact Or.inl ⟨[], .whole, Or.inl rfl⟩
        | cons o operands => exact hfrom o List.mem_cons_self (hall o List.mem_cons_self)
      · rw [hunknown] at hknown
        cases hknown

/-- A hollow condition is left only of a condition with an empty row. -/
theorem hasEmptyRow_of_hollow {c node : Condition} (h : c.filtered = some node)
    (hhollow : Hollow mode node) : HasEmptyRow mode c := by
  induction c using treeInduction generalizing node with
  | literal text =>
    rw [filtered] at h
    split at h <;> cases h
    cases hhollow
  | fields entries =>
    obtain ⟨kept, rfl, -⟩ := filtered_fields_cases h
    cases hhollow
  | compound name operands ih =>
    rcases filtered_compound_cases h with ⟨o, kept, hwild, rfl, rfl, -, hne, hmem⟩ |
      ⟨hname, hmany, rfl⟩ | ⟨hname, rfl, hall⟩
    · rcases hhollow.compound_cases with ⟨hrow, -⟩ | ⟨-, hkept⟩
      · cases o <;> simp [Operator.name] at hrow hwild
      · obtain ⟨k, hk⟩ := List.exists_mem_of_ne_nil kept hne
        obtain ⟨c, hc, hfiltered⟩ := hmem k hk
        exact (ih c hc hfiltered (hkept k hk)).under hc
    · exact absurd ((compound_eq_empty_iff.mp hhollow.compiles).2.1 hname) hmany
    · obtain ⟨hknown, -, htexts⟩ := compound_eq_empty_iff.mp hhollow.compiles
      rcases hname with rfl | hunknown
      · cases operands with
        | nil => exact ⟨[], .whole, Or.inl rfl⟩
        | cons o operands =>
          have ho : o ∈ o :: operands := List.mem_cons_self
          rcases silent_cases (hall o ho) (htexts o ho) with hrow | hnone
          · exact hrow.under ho
          · exact ⟨_, .whole, Or.inr ⟨o, ho, hnone⟩⟩
      · rw [hunknown] at hknown
        cases hknown

end Condition

namespace Builder

open Condition

/-- A condition still filters in the calls that leave out its empty parts. -/
structure StillFilters (mode : FieldMode) (v : Value) : Prop where
  /-- What is left of the condition has a text, if it compiles. -/
  left : ∀ node, kept v = .ok (some node) → compile mode node ≠ .ok ""
  /-- A condition with a number too long to be written is refused. -/
  refused : v.isOverlong = true → ∀ b : Builder, ∀ c ∈ [Call.filter v, .andFilter v, .orFilter v],
    b.apply c = .error (.tooManyDigits none)
  /-- A condition is replaced only by one with a text. -/
  replaced : v.isOverlong = false → ∀ b : Builder, ∃ b', b.apply (.filter v) = .ok b' ∧
    (b' = b ∨ compileWhere mode b'.condition ≠ .ok "")
  /-- What is joined by "and" has a text. -/
  joined : v.isOverlong = false → ∀ b : Builder, ∃ b', b.apply (.andFilter v) = .ok b' ∧
    (b' = b ∨ ∃ node, b' = b.add .and node ∧ compile mode node ≠ .ok "")
  /-- What is joined by "or" has a text. -/
  offered : v.isOverlong = false → ∀ b : Builder, ∃ b', b.apply (.orFilter v) = .ok b' ∧
    (b' = b ∨ ∃ node, b' = b.add .or node ∧ compile mode node ≠ .ok "")

theorem kept_of_short {v : Value} (h : v.isOverlong = false) :
    kept v = .ok (ofValue v).filtered := by
  rw [kept, read_of_short h]
  rfl

theorem kept_of_overlong {v : Value} (h : v.isOverlong = true) :
    kept v = .error (.tooManyDigits none) := by
  rw [kept, read_of_overlong h]
  rfl

theorem filtered_of_kept {v : Value} {node : Condition} (h : kept v = .ok (some node)) :
    (ofValue v).filtered = some node := by
  cases hlong : v.isOverlong with
  | false => exact Except.ok.inj ((kept_of_short hlong).symm.trans h)
  | true =>
    rw [kept_of_overlong hlong] at h
    cases h

theorem refused_of_overlong {v : Value} (h : v.isOverlong = true) (b : Builder) :
    ∀ c ∈ [Call.filter v, .andFilter v, .orFilter v], b.apply c = .error (.tooManyDigits none) := by
  have hkept := kept_of_overlong h
  intro c hc
  simp only [List.mem_cons, List.not_mem_nil, or_false] at hc
  rcases hc with rfl | rfl | rfl <;> rw [apply, hkept] <;> rfl

theorem stillFilters_of_left {mode : FieldMode} {v : Value}
    (h : ∀ node, kept v = .ok (some node) → compile mode node ≠ .ok "") :
    StillFilters mode v := by
  cases hlong : v.isOverlong with
  | true =>
    have hshort : v.isOverlong ≠ false := by rw [hlong]; exact Bool.false_ne_true.symm
    exact ⟨h, refused_of_overlong, fun hno => absurd hno hshort, fun hno => absurd hno hshort,
      fun hno => absurd hno hshort⟩
  | false =>
    have hkept := kept_of_short hlong
    cases hfiltered : (ofValue v).filtered with
    | none =>
      rw [hfiltered] at hkept
      exact ⟨h, refused_of_overlong,
        fun _ b => ⟨b, by rw [apply, hkept]; rfl, Or.inl rfl⟩,
        fun _ b => ⟨b, by rw [apply, hkept]; rfl, Or.inl rfl⟩,
        fun _ b => ⟨b, by rw [apply, hkept]; rfl, Or.inl rfl⟩⟩
    | some node =>
      rw [hfiltered] at hkept
      have htext := h node hkept
      exact ⟨h, refused_of_overlong,
        fun _ b => ⟨{ b with condition := some node }, by rw [apply, hkept]; rfl, Or.inr htext⟩,
        fun _ b => ⟨b.add .and node, by rw [apply, hkept]; rfl, Or.inr ⟨node, rfl, htext⟩⟩,
        fun _ b => ⟨b.add .or node, by rw [apply, hkept]; rfl, Or.inr ⟨node, rfl, htext⟩⟩⟩

/-- A filtered condition still filters, unless it is hollow: unless what is left of it is a row
of tokens without a text, or put together from such rows only. This happens only to conditions
with an empty row in them, which is a row of no tokens or, where the first alternatives of
fields decide, one with fields whose first alternatives are none. -/
theorem a_filtered_condition_still_filters_unless_hollow (mode : FieldMode) (v : Value) :
    (StillFilters mode v ↔ ∀ node, kept v = .ok (some node) → ¬ Hollow mode node) ∧
      (¬ HasEmptyRow mode (ofValue v) → StillFilters mode v) := by
  have hiff : StillFilters mode v ↔ ∀ node, kept v = .ok (some node) → ¬ Hollow mode node := by
    constructor
    · exact fun h node hkept hhollow => h.left node hkept hhollow.compiles
    · intro h
      apply stillFilters_of_left
      exact fun node hkept hempty =>
        h node hkept ((compiles_empty_iff_hollow (filtered_of_kept hkept)).mp hempty)
  refine ⟨hiff, fun hrow => hiff.mpr fun node hkept hhollow => ?_⟩
  exact hrow (hasEmptyRow_of_hollow (filtered_of_kept hkept) hhollow)

/-- The fields of a row of two tokens, one of which is asked for nothing. -/
def rowFields : List (String × FieldValue) := [("genre", .many ["sf"]), ("tag", .absent)]

/-- A row of two tokens, the second of them fields, under a junction. -/
def rowOfYears : Condition :=
  .compound "OR" [.literal "", .compound "WILD" [.literal "year", .fields rowFields]]

theorem not_hasEmptyRow_rowOfYears : ¬ HasEmptyRow .firstAlternatives rowOfYears := by
  rintro ⟨row, hin, hempty⟩
  have hrow : row = [.literal "year", .fields rowFields] := by
    simpa [rowOfYears, within_compound_iff, within_literal_iff, within_fields_iff] using hin
  subst hrow
  rcases hempty with hnil | ⟨o, ho, -, entries, field, hfields, hfirst⟩
  · cases hnil
  · have hentries : entries = rowFields := by
      simp only [List.mem_cons, List.not_mem_nil, or_false] at ho
      rcases ho with rfl | rfl
      · simp [within_literal_iff] at hfields
      · simpa [within_fields_iff] using hfields
    subst hentries
    cases hfirst

/-- The row of years is kept, and it still filters. -/
theorem years_of_books_still_filter :
    ¬ HasEmptyRow .firstAlternatives (ofValue (.condition rowOfYears)) ∧
      kept (.condition rowOfYears) =
        .ok (some (.compound "OR" [.compound "WILD" [.literal "year", .fields rowFields]])) ∧
      StillFilters .firstAlternatives (.condition rowOfYears) := by
  have hrow : ¬ HasEmptyRow .firstAlternatives (ofValue (.condition rowOfYears)) :=
    not_hasEmptyRow_rowOfYears
  exact ⟨hrow, rfl, (a_filtered_condition_still_filters_unless_hollow _ _).2 hrow⟩

/-- A row of no tokens is left as it is, and takes the place of a condition with a text. -/
theorem a_row_of_no_tokens_replaces_a_condition :
    let v : Value := .list [.text "WILD"]
    let b : Builder := { condition := some (.literal "a:1") }
    kept v = .ok (some (.compound "WILD" [])) ∧
      (∃ b', b.apply (.filter v) = .ok b' ∧
        compileWhere .firstAlternatives b'.condition = .ok "" ∧
        compileWhere .allFields b'.condition = .ok "") ∧
      compileWhere .firstAlternatives b.condition = .ok "a:1" ∧
      ¬ StillFilters .firstAlternatives v ∧ ¬ StillFilters .allFields v := by
  intro v b
  have hleft : kept v = .ok (some (.compound "WILD" [])) := rfl
  exact ⟨hleft, ⟨{ condition := some (.compound "WILD" []) }, rfl, rfl, rfl⟩, rfl,
    fun h => h.left _ hleft rfl, fun h => h.left _ hleft rfl⟩

/-- Fields whose first alternatives are none hide the ones behind them. -/
example : ¬ StillFilters .firstAlternatives
    (.list [.text "WILD", .map [(.text "a", .list []), (.text "b", .text "x")]]) :=
  fun h => h.left _ rfl rfl

end Builder

end SearchQuery
