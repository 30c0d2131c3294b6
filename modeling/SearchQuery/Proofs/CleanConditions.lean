-- Clean conditions: no part of them asks for nothing. Filtering leaves the largest clean
-- condition that can be had by taking fields away, and operands of junctions; so it leaves a
-- clean condition as it is.
import Mathlib.Data.List.Forall2
import SearchQuery.Condition.Filter
import SearchQuery.Proofs.ConditionTrees

namespace SearchQuery

/-! ## Clean conditions -/

/-- Some letter of the text is no blank. -/
def Text.Visible (text : String) : Prop := ∃ c ∈ text.toList, Text.isBlank c = false

theorem Text.visible_iff {text : String} : Visible text ↔ allBlank text = false := by
  simp [Visible, allBlank]

/-- The field is asked for something: a text that is not blank, or any of several. -/
def FieldValue.Asks : FieldValue → Prop
  | .absent => False
  | .one text => Text.Visible text
  | .many texts => texts ≠ []

theorem FieldValue.asks_iff {value : FieldValue} : value.Asks ↔ value.isEmpty = false := by
  cases value with
  | absent => simp [Asks, isEmpty]
  | one text => exact Text.visible_iff
  | many texts => simp [Asks, isEmpty]

/-- Fields that are all asked for something are all left. -/
theorem FieldValue.filter_asked {entries : List (String × FieldValue)}
    (h : ∀ entry ∈ entries, entry.2.Asks) :
    entries.filter (fun entry => !entry.2.isEmpty) = entries := by
  apply List.filter_eq_self.mpr
  intro entry hentry
  simp [asks_iff.mp (h entry hentry)]

namespace Condition

/-- No part of a condition that counts by itself asks for nothing. A negation of none or of
several operands is clean as it is, and a row of operands under another word if something is
left of each of them. -/
inductive Clean : Condition → Prop
  | literal {text : String} : Text.Visible text → Clean (.literal text)
  | fields {entries : List (String × FieldValue)} :
      entries ≠ [] → (∀ entry ∈ entries, entry.2.Asks) → Clean (.fields entries)
  | junction {name : String} {operands : List Condition} : (name = "AND" ∨ name = "OR") →
      operands ≠ [] → (∀ o ∈ operands, Clean o) → Clean (.compound name operands)
  | negation {o : Condition} : Clean o → Clean (.compound "NOT" [o])
  | malformed {operands : List Condition} : operands.length ≠ 1 →
      Clean (.compound "NOT" operands)
  | row {name : String} {operands : List Condition} : name ∉ ["AND", "OR", "NOT"] →
      (∀ o ∈ operands, o.filtered ≠ none) → Clean (.compound name operands)

/-- Of the first condition the second is left when some fields are taken away, and some operands
of junctions. What stays keeps its order and its texts. -/
inductive Pruned : Condition → Condition → Prop
  | whole (c : Condition) : Pruned c c
  | fields {entries kept : List (String × FieldValue)} : kept.Sublist entries →
      Pruned (.fields entries) (.fields kept)
  | junction {name : String} {operands chosen kept : List Condition} :
      (name = "AND" ∨ name = "OR") → chosen.Sublist operands → List.Forall₂ Pruned chosen kept →
      Pruned (.compound name operands) (.compound name kept)
  | negation {o kept : Condition} : Pruned o kept →
      Pruned (.compound "NOT" [o]) (.compound "NOT" [kept])

/-! ## What filtering leaves is clean -/

theorem clean_of_filtered {c node : Condition} (h : c.filtered = some node) : Clean node := by
  induction c using treeInduction generalizing node with
  | literal text =>
    rw [filtered] at h
    split at h
    · cases h
    · next hblank =>
      cases h
      apply Clean.literal
      simpa [Text.visible_iff] using hblank
  | fields entries =>
    rw [filtered_fields] at h
    dsimp only at h
    split at h
    · cases h
    · next hne =>
      cases h
      apply Clean.fields hne
      intro entry hentry
      simpa [FieldValue.asks_iff] using (List.mem_filter.mp hentry).2
  | compound name operands ih =>
    rcases compound_kinds name operands with hname | ⟨o, rfl, rfl⟩ | ⟨rfl, hcount⟩ | hrow
    · rw [filtered_junction hname] at h
      dsimp only at h
      split at h
      · cases h
      · next hne =>
        cases h
        apply Clean.junction hname hne
        intro k hk
        obtain ⟨o, ho, hfiltered⟩ := List.mem_filterMap.mp hk
        exact ih o ho hfiltered
    · rw [filtered_negation] at h
      obtain ⟨k, hk, rfl⟩ := Option.map_eq_some_iff.mp h
      exact .negation (ih o (List.mem_singleton_self o) hk)
    · rw [filtered_malformed hcount] at h
      cases h
      exact .malformed hcount
    · rw [filtered_row hrow] at h
      split at h
      · cases h
      · next hall =>
        cases h
        apply Clean.row hrow
        intro o ho hnone
        exact hall ⟨o, ho, hnone⟩

/-- A clean condition stays as it is. The induction is on how it is clean. -/
theorem filtered_of_clean {c : Condition} (h : Clean c) : c.filtered = some c := by
  induction h with
  | literal hvisible =>
    rw [filtered]
    simp [Text.visible_iff.mp hvisible]
  | @fields entries hne hasks =>
    rw [filtered_fields, FieldValue.filter_asked hasks]
    exact if_neg hne
  | @junction name operands hname hne _ ih =>
    have hkept : operands.filterMap filtered = operands := by
      rw [List.filterMap_congr ih]
      exact List.filterMap_some
    rw [filtered_junction hname, hkept]
    exact if_neg hne
  | negation _ ih => rw [filtered_negation, ih, Option.map_some]
  | malformed hcount => exact filtered_malformed hcount
  | @row name operands hrow hall =>
    rw [filtered_row hrow]
    apply if_neg
    rintro ⟨o, ho, hnone⟩
    exact hall o ho hnone

/-! ## What filtering leaves is pruned -/

/-- Where a function takes values from some members of a list, these members make a sublist. -/
theorem exists_sublist_of_filterMap {α β : Type} {R : α → β → Prop} {f : α → Option β}
    {as : List α} (h : ∀ a ∈ as, ∀ b, f a = some b → R a b) :
    ∃ chosen : List α, chosen.Sublist as ∧ List.Forall₂ R chosen (as.filterMap f) := by
  induction as with
  | nil => exact ⟨[], .slnil, .nil⟩
  | cons a as ih =>
    obtain ⟨chosen, hsub, hchosen⟩ := ih fun a' ha' => h a' (List.mem_cons_of_mem a ha')
    cases hf : f a with
    | none =>
      rw [List.filterMap_cons_none hf]
      exact ⟨chosen, hsub.cons a, hchosen⟩
    | some b =>
      rw [List.filterMap_cons_some hf]
      exact ⟨a :: chosen, hsub.cons_cons a, .cons (h a List.mem_cons_self b hf) hchosen⟩

theorem pruned_of_filtered {c node : Condition} (h : c.filtered = some node) :
    Pruned c node := by
  induction c using treeInduction generalizing node with
  | literal text =>
    rw [filtered] at h
    split at h
    · cases h
    · cases h
      exact .whole _
  | fields entries =>
    rw [filtered_fields] at h
    dsimp only at h
    split at h
    · cases h
    · cases h
      exact .fields List.filter_sublist
  | compound name operands ih =>
    rcases compound_kinds name operands with hname | ⟨o, rfl, rfl⟩ | ⟨rfl, hcount⟩ | hrow
    · rw [filtered_junction hname] at h
      dsimp only at h
      split at h
      · cases h
      · cases h
        obtain ⟨chosen, hsub, hchosen⟩ :=
          exists_sublist_of_filterMap fun o ho node hnode => ih o ho hnode
        exact .junction hname hsub hchosen
    · rw [filtered_negation] at h
      obtain ⟨k, hk, rfl⟩ := Option.map_eq_some_iff.mp h
      exact .negation (ih o (List.mem_singleton_self o) hk)
    · rw [filtered_malformed hcount] at h
      cases h
      exact .whole _
    · rw [filtered_row hrow] at h
      split at h
      · cases h
      · cases h
        exact .whole _

/-! ## Nothing clean is lost -/

theorem forall₂_filterMap {α β γ : Type} {R : α → γ → Prop} {S : β → γ → Prop}
    {f : α → Option β} {as : List α} {cs : List γ} (h : List.Forall₂ R as cs)
    (hf : ∀ a ∈ as, ∀ c ∈ cs, R a c → ∃ b, f a = some b ∧ S b c) :
    List.Forall₂ S (as.filterMap f) cs := by
  induction h with
  | nil => exact .nil
  | @cons a c as cs hac _ ih =>
    obtain ⟨b, hb, hbc⟩ := hf a List.mem_cons_self c List.mem_cons_self hac
    rw [List.filterMap_cons_some hb]
    apply List.Forall₂.cons hbc
    apply ih
    intro a' ha' c' hc'
    exact hf a' (List.mem_cons_of_mem a ha') c' (List.mem_cons_of_mem c hc')

/-- A clean junction has operands, and all of them are clean. -/
theorem Clean.operands {name : String} {operands : List Condition}
    (h : Clean (.compound name operands)) (hname : name = "AND" ∨ name = "OR") :
    operands ≠ [] ∧ ∀ o ∈ operands, Clean o := by
  cases h with
  | junction _ hne hclean => exact ⟨hne, hclean⟩
  | negation | malformed => simp at hname
  | row hrow => simp at hrow hname; simp [hrow] at hname

/-- Whatever clean condition is left of a condition when parts are taken away, is left of what
filtering leaves, too. -/
theorem exists_filtered_of_pruned {c d : Condition} (hpruned : Pruned c d) (hclean : Clean d) :
    ∃ node, c.filtered = some node ∧ Pruned node d := by
  induction c using treeInduction generalizing d with
  | literal text =>
    cases hpruned
    exact ⟨_, filtered_of_clean hclean, .whole _⟩
  | fields entries =>
    cases hpruned with
    | whole => exact ⟨_, filtered_of_clean hclean, .whole _⟩
    | @fields _ kept hsub =>
      obtain ⟨hne, hasks⟩ : kept ≠ [] ∧ ∀ entry ∈ kept, entry.2.Asks := by
        cases hclean with
        | fields hne hasks => exact ⟨hne, hasks⟩
      have hleft := hsub.filter fun entry => !entry.2.isEmpty
      rw [FieldValue.filter_asked hasks] at hleft
      refine ⟨.fields (entries.filter fun entry => !entry.2.isEmpty), ?_, .fields hleft⟩
      rw [filtered_fields]
      apply if_neg
      intro hnil
      exact hne (List.sublist_nil.mp (hnil ▸ hleft))
  | compound name operands ih =>
    cases hpruned with
    | whole => exact ⟨_, filtered_of_clean hclean, .whole _⟩
    | @junction _ _ chosen kept hname hsub hchosen =>
      obtain ⟨hne, hkept⟩ := hclean.operands hname
      have hleft : List.Forall₂ Pruned (chosen.filterMap filtered) kept := by
        apply forall₂_filterMap hchosen
        intro o ho k hk hok
        exact ih o (hsub.subset ho) hok (hkept k hk)
      have hsome : chosen.filterMap filtered ≠ [] := by
        intro hnil
        rw [hnil] at hleft
        exact hne (List.forall₂_nil_left_iff.mp hleft)
      have hsub' := hsub.filterMap filtered
      refine ⟨_, ?_, .junction hname hsub' hleft⟩
      rw [filtered_junction hname]
      apply if_neg
      intro hnil
      exact hsome (List.sublist_nil.mp (hnil ▸ hsub'))
    | @negation o kept hok =>
      have hkept : Clean kept := by
        cases hclean with
        | junction hname => simp at hname
        | negation hkept => exact hkept
        | malformed hcount => simp at hcount
        | row hrow => simp at hrow
      obtain ⟨node, hnode, hleft⟩ := ih o (List.mem_singleton_self o) hok hkept
      refine ⟨.compound "NOT" [node], ?_, .negation hleft⟩
      rw [filtered_negation, hnode, Option.map_some]

/-- Filtering leaves the largest clean condition. What is left of a condition is clean and is
left by taking away fields and operands of junctions only; every clean condition that can be
had in this way can be had of it, too; so a clean condition stays as it is, and filtering a
second time changes nothing. -/
theorem filtering_leaves_the_largest_clean_condition (c : Condition) :
    (∀ node, c.filtered = some node → Clean node ∧ Pruned c node) ∧
      (Clean c → c.filtered = some c) ∧
      c.filtered.bind filtered = c.filtered ∧
      ∀ d, Pruned c d → Clean d → ∃ node, c.filtered = some node ∧ Pruned node d := by
  refine ⟨fun node h => ⟨clean_of_filtered h, pruned_of_filtered h⟩, filtered_of_clean, ?_,
    fun d => exists_filtered_of_pruned⟩
  cases h : c.filtered with
  | none => rfl
  | some node => exact filtered_of_clean (clean_of_filtered h)

/-- Any of a blank text, a negation of something, a negation of nothing, and a row with an empty
token. -/
def wish : Condition :=
  .compound "OR" [.literal " ",
    .compound "NOT" [.compound "AND" [.literal "",
      .fields [("tag", .absent), ("genre", .one "sf"), ("year", .many []), ("id", .many [""])]]],
    .compound "NOT" [], .compound "WILD" [.literal "year", .literal ""]]

/-- The two negations are left of the wish. -/
theorem a_wish_is_left_without_what_is_blank :
    let asked : Condition := .compound "NOT" [.compound "AND" [.fields [("genre", .one "sf"),
      ("id", .many [""])]]]
    let node : Condition := .compound "OR" [asked, .compound "NOT" []]
    let less : Condition := .compound "OR" [.compound "NOT" []]
    wish.filtered = some node ∧ Clean node ∧ Pruned wish node ∧ node.filtered = some node ∧
      Pruned wish less ∧ Clean less ∧ Pruned node less := by
  intro asked node less
  have hnode : wish.filtered = some node := rfl
  obtain ⟨hleft, -, -, hlargest⟩ := filtering_leaves_the_largest_clean_condition wish
  obtain ⟨hclean, hpruned⟩ := hleft node hnode
  obtain ⟨-, hstays, -⟩ := filtering_leaves_the_largest_clean_condition node
  have hless : Pruned wish less := by
    apply Pruned.junction (Or.inr rfl) _ (.cons (.whole _) .nil)
    apply List.singleton_sublist.mpr
    simp
  have hcleanLess : Clean less := by
    apply Clean.junction (Or.inr rfl) (List.cons_ne_nil _ _)
    intro o ho
    rw [List.mem_singleton.mp ho]
    exact .malformed (by decide)
  obtain ⟨other, hother, hprunedLess⟩ := hlargest less hless hcleanLess
  cases hnode.symm.trans hother
  exact ⟨hnode, hclean, hpruned, hstays hclean, hless, hcleanLess, hprunedLess⟩

end Condition

end SearchQuery
