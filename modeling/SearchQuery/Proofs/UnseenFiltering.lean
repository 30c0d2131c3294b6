-- Filtering and the compiler leave out what is empty, each in its own way: one takes parts off
-- the tree, the other drops empty texts. Where no text is blank without being empty both come
-- to the same, so it cannot be seen in a query text whether its condition was filtered.
import SearchQuery.Proofs.CleanConditions
import SearchQuery.Proofs.FilteredConditions

namespace SearchQuery

open Text

/-! ## Conditions without blank texts -/

namespace Condition

/-- A condition of junctions and negations in which no text is blank, except query texts that
are empty. -/
inductive Solid : Condition → Prop
  | literal {text : String} : (text = "" ∨ Text.Visible text) → Solid (.literal text)
  | fields {entries : List (String × FieldValue)} :
      (∀ entry ∈ entries, ∀ text, entry.2 = .one text → Text.Visible text) →
      Solid (.fields entries)
  | compound {name : String} {operands : List Condition} : name ∈ ["AND", "OR", "NOT"] →
      (∀ o ∈ operands, Solid o) → Solid (.compound name operands)

/-- No field in the condition is asked for any of no values. -/
def HasAlternatives (c : Condition) : Prop :=
  ∀ entries, Within (.fields entries) c → ∀ entry ∈ entries, entry.2 ≠ .many []

end Condition

/-! ## Fields -/

/-- A field that is asked for nothing has no part, unless it is asked for a blank text. -/
theorem fieldPart?_of_isEmpty {entry : String × FieldValue} (hempty : entry.2.isEmpty = true)
    (hsolid : ∀ text, entry.2 = .one text → Text.Visible text) : fieldPart? entry = none := by
  obtain ⟨field, value⟩ := entry
  cases value with
  | absent => rfl
  | one text =>
    have hvisible := Text.visible_iff.mp (hsolid text rfl)
    simp [FieldValue.isEmpty, hvisible] at hempty
  | many texts =>
    have htexts : texts = [] := by simpa [FieldValue.isEmpty] using hempty
    subst htexts
    rfl

theorem filterMap_fieldPart_asked {entries : List (String × FieldValue)}
    (hsolid : ∀ entry ∈ entries, ∀ text, entry.2 = .one text → Text.Visible text) :
    (entries.filter fun entry => !entry.2.isEmpty).filterMap fieldPart? =
      entries.filterMap fieldPart? := by
  rw [List.filterMap_filter]
  apply List.filterMap_congr
  intro entry hentry
  by_cases hempty : entry.2.isEmpty = true
  · simp [hempty, fieldPart?_of_isEmpty hempty (hsolid entry hentry)]
  · simp [hempty]

/-- The first field with several values is not left out where it has some. -/
theorem firstMany?_asked {entries : List (String × FieldValue)}
    (h : ∀ entry ∈ entries, entry.2 ≠ .many []) :
    firstMany? (entries.filter fun entry => !entry.2.isEmpty) = firstMany? entries := by
  unfold firstMany?
  induction entries with
  | nil => rfl
  | cons entry entries ih =>
    have hrest := ih fun e he => h e (List.mem_cons_of_mem entry he)
    obtain ⟨field, value⟩ := entry
    cases value with
    | absent => simpa [FieldValue.isEmpty] using hrest
    | one text =>
      by_cases hblank : Text.allBlank text = true
      · simpa [FieldValue.isEmpty, hblank] using hrest
      · simpa [FieldValue.isEmpty, hblank] using hrest
    | many texts =>
      have htexts : texts ≠ [] := by
        intro hnil
        exact h _ List.mem_cons_self (by rw [hnil])
      simp [FieldValue.isEmpty, htexts]

/-- Fields have the same text without those that are asked for nothing. -/
theorem fieldsText_asked {mode : FieldMode} {entries : List (String × FieldValue)}
    (hsolid : ∀ entry ∈ entries, ∀ text, entry.2 = .one text → Text.Visible text)
    (hmode : mode = .allFields ∨ ∀ entry ∈ entries, entry.2 ≠ .many []) :
    fieldsText mode (entries.filter fun entry => !entry.2.isEmpty) = fieldsText mode entries := by
  rw [fieldsText_eq, fieldsText_eq, filterMap_fieldPart_asked hsolid]
  rcases hmode with rfl | hgiven
  · rfl
  · rw [firstMany?_asked hgiven]

namespace Condition

variable {mode : FieldMode}

/-! ## Conditions -/

/-- Filtering cannot be seen in the text of a condition: either nothing is left of it and it has
the empty text, or what is left of it has the same text, which is not empty, or fails alike. -/
def Unseen (mode : FieldMode) (c : Condition) : Prop :=
  match c.filtered with
  | none => compile mode c = .ok ""
  | some node => compile mode node = compile mode c ∧ compile mode c ≠ .ok ""

theorem unseen_fields {entries : List (String × FieldValue)}
    (hsolid : ∀ entry ∈ entries, ∀ text, entry.2 = .one text → Text.Visible text)
    (hmode : mode = .allFields ∨ ∀ entry ∈ entries, entry.2 ≠ .many []) :
    Unseen mode (.fields entries) := by
  have hsame := fieldsText_asked hsolid hmode
  unfold Unseen
  rw [filtered_fields]
  dsimp only
  by_cases hnil : entries.filter (fun entry => !entry.2.isEmpty) = []
  · rw [if_pos hnil]
    rw [hnil] at hsame
    simp only [compile, ← hsame]
    cases mode <;> rfl
  · rw [if_neg hnil]
    have htext : fieldsText mode (entries.filter fun entry => !entry.2.isEmpty) ≠ "" := by
      apply fieldsText_ne_empty hnil
      intro entry hentry
      simpa using (List.mem_filter.mp hentry).2
    rw [hsame] at htext
    simp only [compile, hsame]
    simpa using htext

/-- The text of a junction is made of the texts of its operands that are not empty. -/
theorem compile_junction {name : String} (hname : name = "AND" ∨ name = "OR")
    (operands : List Condition) :
    compile mode (.compound name operands) =
      (compileAll mode operands).map fun parts => groups name (parts.filter (· != "")) := by
  rw [compile_compound]
  cases compileAll mode operands with
  | error fault => rfl
  | ok parts => exact operatorText_junction hname parts

/-- What is left of several operands has those of their texts that are not empty, or fails with
the same operand. -/
theorem compileAll_filtered {operands : List Condition} (h : ∀ o ∈ operands, Unseen mode o) :
    compileAll mode (operands.filterMap filtered) =
      (compileAll mode operands).map fun parts => parts.filter (· != "") := by
  induction operands with
  | nil => rfl
  | cons o operands ih =>
    have ho := h o List.mem_cons_self
    have hrest := ih fun o' ho' => h o' (List.mem_cons_of_mem o ho')
    unfold Unseen at ho
    cases hfiltered : o.filtered with
    | none =>
      rw [hfiltered] at ho
      rw [List.filterMap_cons_none hfiltered, hrest, compileAll, ho]
      cases compileAll mode operands <;> rfl
    | some node =>
      rw [hfiltered] at ho
      obtain ⟨hsame, hne⟩ := ho
      rw [List.filterMap_cons_some hfiltered, compileAll, compileAll, hrest, hsame]
      cases ho : compile mode o with
      | error fault => rfl
      | ok text =>
        have htext : text ≠ "" := fun hempty => hne (by rw [ho, hempty])
        cases compileAll mode operands with
        | error fault => rfl
        | ok parts => simp [bind, Except.bind, Except.map, htext]

theorem Unseen.ne_empty {o node : Condition} (h : Unseen mode o) (hnode : o.filtered = some node) :
    compile mode o ≠ .ok "" := by
  unfold Unseen at h
  rw [hnode] at h
  exact h.2

theorem unseen_junction {name : String} {operands : List Condition}
    (hname : name = "AND" ∨ name = "OR") (h : ∀ o ∈ operands, Unseen mode o) :
    Unseen mode (.compound name operands) := by
  have hkept := compileAll_filtered h
  unfold Unseen
  rw [filtered_junction hname]
  dsimp only
  by_cases hnil : operands.filterMap filtered = []
  · rw [if_pos hnil]
    have hempty : compile mode (.compound name []) = .ok "" := by
      rw [compile_junction hname]
      rfl
    rw [← hempty, compile_junction hname, compile_junction hname, ← hnil, hkept]
    cases compileAll mode operands with
    | error fault => rfl
    | ok parts => simp [Except.map]
  · rw [if_neg hnil]
    constructor
    · rw [compile_junction hname, compile_junction hname, hkept]
      cases compileAll mode operands with
      | error fault => rfl
      | ok parts => simp [Except.map]
    · -- something is left of one of the operands, and that one has a text or fails
      intro hempty
      obtain ⟨node, hnode⟩ := List.exists_mem_of_ne_nil _ hnil
      obtain ⟨o, ho, hfiltered⟩ := List.mem_filterMap.mp hnode
      exact (h o ho).ne_empty hfiltered ((compound_eq_empty_iff.mp hempty).2.2 o ho)

theorem unseen_negation {o : Condition} (h : Unseen mode o) :
    Unseen mode (.compound "NOT" [o]) := by
  unfold Unseen at h ⊢
  rw [filtered_negation]
  cases hfiltered : o.filtered with
  | none =>
    rw [hfiltered] at h
    rw [Option.map_none]
    apply compound_eq_empty_iff.mpr
    refine ⟨by decide, fun _ => rfl, ?_⟩
    simpa using h
  | some node =>
    rw [hfiltered] at h
    obtain ⟨hsame, hne⟩ := h
    rw [Option.map_some]
    constructor
    · simp only [compile_compound, compileAll, hsame]
    · intro hempty
      exact hne ((compound_eq_empty_iff.mp hempty).2.2 o List.mem_cons_self)

theorem unseen_malformed {operands : List Condition} (hcount : operands.length ≠ 1) :
    Unseen mode (.compound "NOT" operands) := by
  unfold Unseen
  rw [filtered_malformed hcount]
  refine ⟨rfl, fun hempty => ?_⟩
  exact hcount ((compound_eq_empty_iff.mp hempty).2.1 rfl)

theorem HasAlternatives.operand {name : String} {operands : List Condition} {o : Condition}
    (h : HasAlternatives (.compound name operands)) (ho : o ∈ operands) : HasAlternatives o := by
  intro entries hin
  exact h entries (.operand ho hin)

theorem unseen_of_solid {c : Condition} (hsolid : Solid c)
    (hmode : mode = .allFields ∨ HasAlternatives c) : Unseen mode c := by
  induction hsolid with
  | @literal text htext =>
    unfold Unseen
    rw [filtered]
    rcases htext with rfl | hvisible
    · rfl
    · have hblank := Text.visible_iff.mp hvisible
      have hne : text ≠ "" := by
        rintro rfl
        cases hblank
      simp [hblank, compile, hne]
  | fields hvisible => exact unseen_fields hvisible (hmode.imp id fun h => h _ .whole)
  | @compound name operands hname _ ih =>
    have hoperands : ∀ o ∈ operands, Unseen mode o := by
      intro o ho
      exact ih o ho (hmode.imp id fun h => h.operand ho)
    rcases compound_kinds name operands with hjunction | ⟨o, rfl, rfl⟩ | ⟨rfl, hcount⟩ | hrow
    · exact unseen_junction hjunction hoperands
    · exact unseen_negation (hoperands o List.mem_cons_self)
    · exact unseen_malformed hcount
    · exact absurd hname hrow

/-- Filtering is unseen where nothing is blank. In a condition of junctions and negations
without blank texts, nothing is left exactly if it compiles to the empty text, and what is left
compiles to the same text, or fails in the same way. Where the first alternatives of fields
decide, this needs that there are some. -/
theorem filtering_is_unseen_where_nothing_is_blank {c : Condition} (hsolid : Solid c)
    (hmode : mode = .allFields ∨ HasAlternatives c) :
    (c.filtered = none ↔ compile mode c = .ok "") ∧
      ∀ node, c.filtered = some node → compile mode node = compile mode c := by
  have hunseen := unseen_of_solid hsolid hmode
  unfold Unseen at hunseen
  cases hfiltered : c.filtered with
  | none =>
    rw [hfiltered] at hunseen
    simp [hunseen]
  | some node =>
    rw [hfiltered] at hunseen
    obtain ⟨hsame, hne⟩ := hunseen
    simp [hsame, hne]

/-- Fields of which one is absent, and one is asked for any of two values. -/
def genreFields : List (String × FieldValue) :=
  [("tag", .absent), ("genre", .many ["sf", "fantasy"])]

/-- Some fields, nothing in two ways, and no dunes. -/
def noDunes : Condition :=
  .compound "OR" [.literal "", .fields genreFields, .compound "NOT" [.compound "AND" []],
    .compound "NOT" [.literal "dune"]]

theorem solid_noDunes : Solid noDunes := by
  have hfields : Solid (.fields genreFields) := by
    apply Solid.fields
    simp [genreFields]
  have hnothing : Solid (.compound "NOT" [.compound "AND" []]) := by
    have hand : Solid (.compound "AND" []) := Solid.compound (by decide) (by simp)
    apply Solid.compound (by decide)
    simpa using hand
  have hdune : Solid (.compound "NOT" [.literal "dune"]) := by
    apply Solid.compound (by decide)
    simpa using Solid.literal (.inr (Text.visible_iff.mpr (by decide)))
  apply Solid.compound (by decide)
  simpa using ⟨Solid.literal (.inl rfl), hfields, hnothing, hdune⟩

theorem hasAlternatives_noDunes : HasAlternatives noDunes := by
  intro entries hin
  have hentries : entries = genreFields := by
    simpa [noDunes, within_compound_iff, within_literal_iff, within_fields_iff] using hin
  subst hentries
  simp [genreFields]

/-- No dunes are asked for alike with and without what is empty. -/
theorem no_dunes_are_asked_for_alike :
    let node : Condition :=
      .compound "OR" [.fields [("genre", .many ["sf", "fantasy"])],
        .compound "NOT" [.literal "dune"]]
    Solid noDunes ∧ HasAlternatives noDunes ∧ noDunes.filtered = some node ∧
      compile .firstAlternatives noDunes =
        .ok "((genre:sf) OR (genre:fantasy)) OR (NOT (dune))" ∧
      compile .firstAlternatives node = compile .firstAlternatives noDunes := by
  intro node
  have hnode : noDunes.filtered = some node := rfl
  obtain ⟨-, hsame⟩ := @filtering_is_unseen_where_nothing_is_blank .firstAlternatives _
    solid_noDunes (.inr hasAlternatives_noDunes)
  exact ⟨solid_noDunes, hasAlternatives_noDunes, hnode, rfl, hsame node hnode⟩

end Condition

end SearchQuery
