-- The laws of groups in compiled texts: a condition whose own texts are balanced compiles to
-- a balanced text, and the operands of a junction can be cut off its text again.
import SearchQuery.Proofs.Balance
import SearchQuery.Proofs.ConditionTrees

namespace SearchQuery

open Text

/-! ## Junctions as groups -/

theorem grouped_eq_groups {word : String} {parts : List String} (h : parts ≠ []) :
    grouped word parts = groups word parts := by
  induction parts with
  | nil => exact absurd rfl h
  | cons e es ih =>
    cases es with
    | nil => simp [grouped, groups]
    | cons f es =>
      have hrest := ih (List.cons_ne_nil f es)
      rw [groups_cons_cons, ← hrest]
      unfold grouped
      rw [String.intercalate_cons_cons, ← String.toList_inj]
      simp

/-- Of the words of junctions none has a parenthesis. -/
theorem plain_of_junction {name : String} (h : name = "AND" ∨ name = "OR") :
    Plain name.toList := by
  rcases h with rfl | rfl <;> decide

/-- A junction holds the texts that are not empty, and nothing else. -/
theorem operatorText_junction {name : String} (h : name = "AND" ∨ name = "OR")
    (parts : List String) :
    operatorText name parts = .ok (groups name (parts.filter (· != ""))) := by
  have hkind : Operator.ofName? name = some .and ∨ Operator.ofName? name = some .or := by
    rcases h with rfl | rfl <;> decide
  unfold operatorText junctionText
  rcases hkind with hk | hk <;> rw [hk] <;> cases hf : parts.filter (· != "") with
  | nil => simp [groups]
  | cons e es => simp [grouped_eq_groups]

theorem joined_cons_cons (word p q : String) (parts : List String) :
    joined word (p :: q :: parts) = groups word (p :: q :: parts) := by
  rw [← grouped_eq_groups (List.cons_ne_nil p _)]
  rfl

/-! ## The compiler closes its groups -/

theorem balanced_joined {word : String} {parts : List String} (hw : Plain word.toList)
    (h : ∀ p ∈ parts, Balanced p.toList) : Balanced (joined word parts).toList := by
  match parts with
  | [] => simpa [joined] using balanced_nil
  | [p] => simpa [joined] using h
  | p :: q :: parts =>
    rw [joined_cons_cons]
    exact balanced_groups hw h

theorem balanced_onePart {field text : String} (hf : Balanced field.toList)
    (ht : Balanced text.toList) : Balanced (field ++ ":" ++ text).toList := by
  have hcolon : Balanced [':'] := by decide
  simpa using (hf.append hcolon).append ht

theorem balanced_alternatives {field : String} {texts : List String}
    (hf : Balanced field.toList) (ht : ∀ t ∈ texts, Balanced t.toList) :
    Balanced (alternatives field texts).toList := by
  apply balanced_joined (by decide)
  intro p hp
  obtain ⟨t, hmem, rfl⟩ := List.mem_map.mp hp
  exact balanced_onePart hf (ht t hmem)

/-- What a field adds to the text of a map of fields. -/
theorem balanced_fieldPart {entry : String × FieldValue} {part : String}
    (hf : Balanced entry.1.toList) (ht : ∀ t ∈ entry.2.texts, Balanced t.toList)
    (h : fieldPart? entry = some part) : Balanced part.toList := by
  rcases fieldPart?_eq_some_iff.mp h with ⟨text, hone, rfl⟩ | ⟨texts, hmany, -, rfl⟩
  · exact balanced_onePart hf (ht text (by simp [hone, FieldValue.texts]))
  · rw [hmany] at ht
    exact balanced_alternatives hf ht

theorem balanced_fieldsText (mode : FieldMode) {entries : List (String × FieldValue)}
    (h : ∀ entry ∈ entries, Balanced entry.1.toList ∧ ∀ t ∈ entry.2.texts, Balanced t.toList) :
    Balanced (fieldsText mode entries).toList := by
  rw [fieldsText_eq]
  split
  · next field texts hfirst =>
    obtain ⟨hf, ht⟩ := h _ (firstMany?_mem hfirst)
    exact balanced_alternatives hf ht
  · apply balanced_joined (by decide)
    intro part hp
    obtain ⟨entry, hmem, hpart⟩ := List.mem_filterMap.mp hp
    obtain ⟨hf, ht⟩ := h entry hmem
    exact balanced_fieldPart hf ht hpart

theorem balanced_operatorText {name text : String} {parts : List String}
    (hname : Balanced name.toList) (hparts : ∀ p ∈ parts, Balanced p.toList)
    (h : operatorText name parts = .ok text) : Balanced text.toList := by
  have hblank : Balanced " ".toList := by decide
  cases hop : Operator.ofName? name with
  | none =>
    simp only [operatorText, hop, Except.ok.injEq] at h
    subst h
    simp only [String.toList_append]
    exact (hname.append hblank).append (balanced_intercalate hblank hparts)
  | some o =>
    have hn := Operator.ofName?_eq_some_iff.mp hop
    cases o with
    | and | or =>
      rw [operatorText_junction (by simp [hn, Operator.name]), Except.ok.injEq] at h
      subst h
      apply balanced_groups (plain_of_junction (by simp [hn, Operator.name]))
      exact fun p hp => hparts p (List.mem_of_mem_filter hp)
    | not =>
      simp only [operatorText, hop] at h
      split at h
      · next part =>
        cases h
        unfold negationText
        split
        · simpa using balanced_nil
        · have hpart := (hparts part (by simp)).inGroup
          simpa using (hname.append hblank).append hpart
      · cases h
    | wild =>
      simp only [operatorText, hop, Except.ok.injEq] at h
      subst h
      split
      · simpa using balanced_nil
      · exact balanced_intercalate hblank hparts

namespace Condition

variable {mode : FieldMode}

theorem balanced_compile {c : Condition} {text : String} (hc : c.compile mode = .ok text)
    (hb : ∀ t ∈ c.texts, Balanced t.toList) : Balanced text.toList := by
  induction c using treeInduction generalizing text with
  | literal t =>
    simp only [compile, Except.ok.injEq] at hc
    exact hc ▸ hb t (by simp [texts])
  | fields entries =>
    simp only [compile, Except.ok.injEq] at hc
    subst hc
    apply balanced_fieldsText
    intro entry hentry
    exact ⟨hb _ (mem_texts_of_field hentry), fun t ht => hb t (mem_texts_of_value hentry ht)⟩
  | compound name operands ih =>
    obtain ⟨parts, hparts, htext⟩ := compile_compound_eq_ok_iff.mp hc
    apply balanced_operatorText (hb name (name_mem_texts name operands)) ?_ htext
    intro p hp
    obtain ⟨o, ho, hop⟩ := exists_operand_of_part hparts hp
    exact ih o ho hop fun t ht => hb t (texts_of_operand ho ht)

/-- No text breaks out of its group. If all texts of a condition are balanced, so is what it
compiles to, and every junction in it, however deep, falls apart into the texts of its
operands, in their order and without the empty ones. -/
theorem no_text_breaks_out_of_its_group {c : Condition} {text : String}
    (hc : c.compile mode = .ok text) (hb : ∀ t ∈ c.texts, Balanced t.toList) :
    Balanced text.toList ∧
      ∀ name operands, Within (.compound name operands) c → (name = "AND" ∨ name = "OR") →
        ∃ (parts : List String) (out : String),
          operands.map (compile mode) = parts.map .ok ∧
          compile mode (.compound name operands) = .ok out ∧
          (out ≠ "" → topGroups out = parts.filter (· != "")) := by
  refine ⟨balanced_compile hc hb, fun name operands hin hname => ?_⟩
  obtain ⟨out, hout⟩ := hin.compiles hc
  obtain ⟨parts, hparts, htext⟩ := compile_compound_eq_ok_iff.mp hout
  refine ⟨parts, out, hparts, hout, fun _ => ?_⟩
  rw [operatorText_junction hname, Except.ok.injEq] at htext
  subst htext
  apply topGroups_groups (plain_of_junction hname)
  intro p hp
  obtain ⟨o, ho, hop⟩ := exists_operand_of_part hparts (List.mem_of_mem_filter hp)
  exact balanced_compile hop fun t ht => hb t (hin.texts_subset (texts_of_operand ho ht))

/-- A junction with an operand that looks like two groups, an empty one, and one that holds
another junction. -/
def nestedJunction : Condition :=
  .compound "AND" [.literal "(a) AND (b)", .literal "",
    .compound "RANGE" [.literal "x", .compound "OR" [.literal "c", .literal "(d)"]]]

theorem a_nested_junction_falls_apart_into_its_operands :
    compile .firstAlternatives nestedJunction =
        .ok "((a) AND (b)) AND (RANGE x (c) OR ((d)))" ∧
      (∀ t ∈ nestedJunction.texts, Balanced t.toList) ∧
      Balanced "((a) AND (b)) AND (RANGE x (c) OR ((d)))".toList ∧
      topGroups "((a) AND (b)) AND (RANGE x (c) OR ((d)))" =
        ["(a) AND (b)", "RANGE x (c) OR ((d))"] := by
  have hc : compile .firstAlternatives nestedJunction =
      .ok "((a) AND (b)) AND (RANGE x (c) OR ((d)))" := rfl
  have hb : ∀ t ∈ nestedJunction.texts, Balanced t.toList := by decide
  obtain ⟨hbalanced, hcut⟩ := no_text_breaks_out_of_its_group hc hb
  obtain ⟨parts, out, hparts, hout, hgroups⟩ := hcut "AND" _ .whole (Or.inl rfl)
  have hpieces : ["(a) AND (b)", "", "RANGE x (c) OR ((d))"].map Except.ok =
      parts.map (Except.ok (ε := Fault)) := hparts
  have hsame : parts = ["(a) AND (b)", "", "RANGE x (c) OR ((d))"] :=
    (List.map_injective_iff.mpr (fun _ _ => Except.ok.inj) hpieces).symm
  have heq : out = "((a) AND (b)) AND (RANGE x (c) OR ((d)))" :=
    Except.ok.inj (hout.symm.trans hc)
  subst hsame heq
  exact ⟨hc, hb, hbalanced, hgroups (by decide)⟩

end Condition

end SearchQuery
