-- When it does not matter which fields count. In one mode the first field with several values
-- decides alone, in the other all fields count. Both give the same text to fields exactly if
-- nothing is written of any field but that one, and so to every condition with such fields only.
import SearchQuery.Proofs.FilteredConditions

namespace SearchQuery

open Text

/-! ## Parts of fields -/

theorem fieldPart?_eq_none_iff {entry : String × FieldValue} :
    fieldPart? entry = none ↔ entry.2 = .absent ∨ entry.2 = .many [] := by
  obtain ⟨field, value⟩ := entry
  cases value with
  | absent => simp [fieldPart?]
  | one text => simp [fieldPart?]
  | many texts => simp [fieldPart?, alternatives_eq_empty_iff]

theorem parts_eq_nil_iff {entries : List (String × FieldValue)} :
    entries.filterMap fieldPart? = [] ↔
      ∀ entry ∈ entries, entry.2 = .absent ∨ entry.2 = .many [] := by
  simp only [List.filterMap_eq_nil_iff, fieldPart?_eq_none_iff]

/-! ## The first field with several values -/

theorem firstMany?_eq_none_iff {entries : List (String × FieldValue)} :
    firstMany? entries = none ↔ ∀ entry ∈ entries, ∀ texts, entry.2 ≠ .many texts := by
  unfold firstMany?
  rw [List.findSome?_eq_none_iff]
  apply forall₂_congr
  rintro ⟨field, value⟩ -
  cases value <;> simp

/-- A field is the first one with several values if it has some and none before it has. -/
theorem firstMany?_eq_some_iff {entries : List (String × FieldValue)} {field : String}
    {texts : List String} :
    firstMany? entries = some (field, texts) ↔
      ∃ before after, entries = before ++ (field, .many texts) :: after ∧
        firstMany? before = none := by
  unfold firstMany?
  simp only [List.findSome?_eq_some_iff, List.findSome?_eq_none_iff]
  constructor
  · rintro ⟨before, ⟨f, value⟩, after, rfl, hvalue, hbefore⟩
    cases value <;> simp at hvalue
    obtain ⟨rfl, rfl⟩ := hvalue
    exact ⟨before, after, rfl, hbefore⟩
  · rintro ⟨before, after, rfl, hbefore⟩
    exact ⟨before, _, after, rfl, rfl, hbefore⟩

/-! ## Lengths of joined parts -/

theorem length_lt_groups {word part : String} {parts : List String} (h : part ∈ parts) :
    part.length < (groups word parts).length := by
  induction parts with
  | nil => simp at h
  | cons e es ih =>
    cases es with
    | nil =>
      rw [List.mem_singleton.mp h]
      simp only [groups, String.length_append]
      have hopen : "(".length = 1 := rfl
      omega
    | cons f es =>
      rw [groups_cons_cons]
      simp only [String.length_append]
      rcases List.mem_cons.mp h with rfl | h
      · have hopen : "(".length = 1 := rfl
        omega
      · have hrest := ih h
        omega

/-- A part is the text of all parts only if there is no other. -/
theorem eq_singleton_of_joined {word part : String} {parts : List String} (h : part ∈ parts)
    (hjoined : joined word parts = part) : parts = [part] := by
  match parts with
  | [] => simp at h
  | [e] => rw [List.mem_singleton.mp h]
  | e :: f :: es =>
    have hlength : part.length < (groups word (e :: f :: es)).length := length_lt_groups h
    rw [← joined_cons_cons, hjoined] at hlength
    omega

/-- Alternatives among other parts stay the whole text exactly if there are no other parts. -/
theorem joined_eq_alternatives_iff {field : String} {texts : List String}
    {before after : List String} (hbefore : ∀ part ∈ before, part ≠ "")
    (hafter : ∀ part ∈ after, part ≠ "") :
    joined "AND" (before ++ (fieldPart? (field, .many texts)).toList ++ after) =
        alternatives field texts ↔ before ++ after = [] := by
  by_cases htexts : texts = []
  · subst htexts
    have hnone : fieldPart? (field, .many []) = none := rfl
    have hempty : alternatives field [] = "" := rfl
    rw [hnone, hempty, Option.toList_none, List.append_nil, joined_eq_empty_iff]
    intro part hpart
    rcases List.mem_append.mp hpart with hpart | hpart
    · exact hbefore part hpart
    · exact hafter part hpart
  · rw [fieldPart?_many htexts, Option.toList_some]
    constructor
    · intro hjoined
      have halone := eq_singleton_of_joined (by simp) hjoined
      have hcount := congrArg List.length halone
      simp only [List.length_append, List.length_singleton] at hcount
      apply List.eq_nil_of_length_eq_zero
      rw [List.length_append]
      omega
    · intro hnil
      obtain ⟨rfl, rfl⟩ := List.append_eq_nil_iff.mp hnil
      rfl

/-! ## Both modes -/

/-- No field has several values, or nothing is written of any field but the first that has. -/
def OneCounts (entries : List (String × FieldValue)) : Prop :=
  (∀ entry ∈ entries, ∀ texts, entry.2 ≠ .many texts) ∨
    ∃ before field texts after, entries = before ++ (field, .many texts) :: after ∧
      (∀ entry ∈ before, ∀ texts, entry.2 ≠ .many texts) ∧
      ∀ entry ∈ before ++ after, entry.2 = .absent ∨ entry.2 = .many []

/-- Around the first field with several values nothing is written, or the modes differ. -/
theorem fieldsText_agree_around {before after : List (String × FieldValue)} {field : String}
    {texts : List String} (hfirst : firstMany? before = none) :
    let entries := before ++ (field, .many texts) :: after
    fieldsText .firstAlternatives entries = fieldsText .allFields entries ↔
      ∀ entry ∈ before ++ after, entry.2 = .absent ∨ entry.2 = .many [] := by
  intro entries
  have hsome : firstMany? entries = some (field, texts) :=
    firstMany?_eq_some_iff.mpr ⟨before, after, rfl, hfirst⟩
  have hparts : entries.filterMap fieldPart? = before.filterMap fieldPart? ++
      (fieldPart? (field, .many texts)).toList ++ after.filterMap fieldPart? := by
    simp only [entries, List.filterMap_append, List.filterMap_cons, List.append_assoc]
    cases fieldPart? (field, .many texts) <;> rfl
  rw [fieldsText_eq, fieldsText_eq, hsome, hparts]
  dsimp only
  rw [eq_comm, joined_eq_alternatives_iff (fun _ => parts_ne_empty) (fun _ => parts_ne_empty),
    ← List.filterMap_append, parts_eq_nil_iff]

/-- Both modes have the same text of fields exactly if only one of them counts. -/
theorem fieldsText_agree_iff {entries : List (String × FieldValue)} :
    fieldsText .firstAlternatives entries = fieldsText .allFields entries ↔ OneCounts entries := by
  constructor
  · intro hagree
    cases hfirst : firstMany? entries with
    | none => exact Or.inl (firstMany?_eq_none_iff.mp hfirst)
    | some first =>
      obtain ⟨field, texts⟩ := first
      obtain ⟨before, after, rfl, hbefore⟩ := firstMany?_eq_some_iff.mp hfirst
      have hsilent := (fieldsText_agree_around hbefore).mp hagree
      exact Or.inr ⟨before, field, texts, after, rfl, firstMany?_eq_none_iff.mp hbefore, hsilent⟩
  · rintro (hnone | ⟨before, field, texts, after, rfl, hbefore, hsilent⟩)
    · rw [fieldsText_eq, fieldsText_eq, firstMany?_eq_none_iff.mpr hnone]
    · exact (fieldsText_agree_around (firstMany?_eq_none_iff.mpr hbefore)).mpr hsilent

namespace Condition

/-- Operands that have the same texts in two modes have them together. -/
theorem compileAll_congr {m n : FieldMode} {cs : List Condition}
    (h : ∀ c ∈ cs, compile m c = compile n c) : compileAll m cs = compileAll n cs := by
  induction cs with
  | nil => rfl
  | cons c cs ih =>
    have hrest := ih fun d hd => h d (List.mem_cons_of_mem c hd)
    rw [compileAll, compileAll, h c List.mem_cons_self, hrest]

theorem compile_agree {c : Condition}
    (h : ∀ entries, Within (.fields entries) c → OneCounts entries) :
    compile .firstAlternatives c = compile .allFields c := by
  induction c using treeInduction with
  | literal text => rfl
  | fields entries =>
    rw [compile, compile, fieldsText_agree_iff.mpr (h entries .whole)]
  | compound name operands ih =>
    have hoperands : compileAll .firstAlternatives operands = compileAll .allFields operands := by
      apply compileAll_congr
      intro o ho
      apply ih o ho
      intro entries hin
      exact h entries (.operand ho hin)
    rw [compile_compound, compile_compound, hoperands]

/-- The modes agree where one field counts. Fields have the same text in both modes exactly if
none of them has several values, or nothing is written of any but the first that has; and a
condition has the same text in both modes, or fails in both, if all its fields are such. -/
theorem the_modes_agree_where_one_field_counts :
    (∀ entries, compile .firstAlternatives (.fields entries) = compile .allFields (.fields entries) ↔
      OneCounts entries) ∧
    ∀ c : Condition, (∀ entries, Within (.fields entries) c → OneCounts entries) →
      compile .firstAlternatives c = compile .allFields c := by
  refine ⟨fun entries => ?_, fun c => compile_agree⟩
  rw [compile, compile, Except.ok.injEq, fieldsText_agree_iff]

/-- Any of two values, beside a field without a value and one of no values. -/
def anyGenre : List (String × FieldValue) :=
  [("tag", .absent), ("genre", .many ["sf", "fantasy"]), ("year", .many [])]

/-- Fields with one value each, among them a blank one. -/
def titled : List (String × FieldValue) := [("title", .one "dune"), ("author", .one "")]

theorem oneCounts_anyGenre : OneCounts anyGenre := by
  right
  exact ⟨[("tag", .absent)], "genre", ["sf", "fantasy"], [("year", .many [])], rfl,
    by simp, by simp⟩

theorem oneCounts_titled : OneCounts titled := by
  left
  simp [titled]

/-- Genres and titles in all kinds of places mean the same in both modes. -/
theorem genres_and_titles_mean_the_same :
    let c : Condition := .compound "near" [.compound "NOT" [.fields anyGenre],
      .compound "WILD" [.literal "about", .fields titled]]
    (∀ entries, Within (.fields entries) c → OneCounts entries) ∧
      compile .firstAlternatives c = compile .allFields c ∧
      compile .allFields c =
        .ok "near NOT ((genre:sf) OR (genre:fantasy)) about (title:dune) AND (author:)" := by
  intro c
  have hone : ∀ entries, Within (.fields entries) c → OneCounts entries := by
    intro entries hin
    have hcases : entries = anyGenre ∨ entries = titled := by
      simpa [c, within_compound_iff, within_literal_iff, within_fields_iff] using hin
    rcases hcases with rfl | rfl
    · exact oneCounts_anyGenre
    · exact oneCounts_titled
  exact ⟨hone, the_modes_agree_where_one_field_counts.2 c hone, rfl⟩

/-- A field with one value beside the first one with several counts in one mode only. -/
example : fieldsText .firstAlternatives [("id", .one ""), ("tag", .many [])] = "" ∧
    fieldsText .allFields [("id", .one ""), ("tag", .many [])] = "id:" := by decide

end Condition

end SearchQuery
