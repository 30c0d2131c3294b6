-- When a condition does not compile: a negation without exactly one operand stands in it. It
-- may stand anywhere, under any word, and beside operands of any text; nothing hides it.
import SearchQuery.Proofs.ConditionTrees

namespace SearchQuery.Condition

/-- A negation without exactly one operand stands in the condition, or is the condition. -/
def HasMalformedNegation (c : Condition) : Prop :=
  ∃ operands, Within (.compound "NOT" operands) c ∧ operands.length ≠ 1

theorem not_hasMalformedNegation_literal (text : String) :
    ¬ HasMalformedNegation (.literal text) := by
  simp [HasMalformedNegation, within_literal_iff]

theorem not_hasMalformedNegation_fields (entries : List (String × FieldValue)) :
    ¬ HasMalformedNegation (.fields entries) := by
  simp [HasMalformedNegation, within_fields_iff]

theorem hasMalformedNegation_compound {name : String} {operands : List Condition} :
    HasMalformedNegation (.compound name operands) ↔
      (name = "NOT" ∧ operands.length ≠ 1) ∨ ∃ o ∈ operands, o.HasMalformedNegation := by
  constructor
  · rintro ⟨found, hin, hcount⟩
    rcases within_compound_iff.mp hin with hself | ⟨o, ho, hin⟩
    · cases hself
      exact Or.inl ⟨rfl, hcount⟩
    · exact Or.inr ⟨o, ho, found, hin, hcount⟩
  · rintro (⟨rfl, hcount⟩ | ⟨o, ho, found, hin, hcount⟩)
    · exact ⟨operands, .whole, hcount⟩
    · exact ⟨found, .operand ho hin, hcount⟩

variable (mode : FieldMode)

/-- A compound condition has a text exactly if its operands have, and are as many as its word
wants. -/
theorem compound_compiles_iff {name : String} {operands : List Condition} :
    (∃ text, compile mode (.compound name operands) = .ok text) ↔
      (∀ o ∈ operands, ∃ text, compile mode o = .ok text) ∧
        ¬ (name = "NOT" ∧ operands.length ≠ 1) := by
  constructor
  · rintro ⟨text, hc⟩
    obtain ⟨parts, hparts, htext⟩ := compile_compound_eq_ok_iff.mp hc
    refine ⟨fun o ho => ?_, fun ⟨hname, hcount⟩ => ?_⟩
    · obtain ⟨part, -, hpart⟩ := exists_part_of_operand hparts ho
      exact ⟨part, hpart⟩
    · have hrefused := operatorText_eq_error_iff.mpr ⟨hname, count_of_parts hparts ▸ hcount, rfl⟩
      rw [hrefused] at htext
      cases htext
  · rintro ⟨hoperands, hwell⟩
    obtain ⟨parts, hparts⟩ := exists_parts hoperands
    cases htext : operatorText name parts with
    | ok text => exact ⟨text, compile_compound_eq_ok_iff.mpr ⟨parts, hparts, htext⟩⟩
    | error fault =>
      obtain ⟨hname, hcount, -⟩ := operatorText_eq_error_iff.mp htext
      exact absurd ⟨hname, count_of_parts hparts ▸ hcount⟩ hwell

/-- A condition has a text exactly if no malformed negation stands in it. -/
theorem compiles_iff (c : Condition) :
    (∃ text, compile mode c = .ok text) ↔ ¬ c.HasMalformedNegation := by
  induction c using treeInduction with
  | literal text => simp [compile, not_hasMalformedNegation_literal]
  | fields entries => simp [compile, not_hasMalformedNegation_fields]
  | compound name operands ih =>
    rw [compound_compiles_iff, hasMalformedNegation_compound, not_or, and_comm]
    refine and_congr Iff.rfl ?_
    push Not
    exact forall₂_congr ih

/-- Compiling fails exactly on a malformed negation. In both modes a condition, however it is
put together, either has a negation without exactly one operand in it, and then compiling says
so; or it has none, and then it has a text. -/
theorem compiling_fails_exactly_on_a_malformed_negation (c : Condition) :
    (compile mode c = .error (.operandCount "NOT") ↔ c.HasMalformedNegation) ∧
      ((∃ text, compile mode c = .ok text) ↔ ¬ c.HasMalformedNegation) := by
  refine ⟨?_, compiles_iff mode c⟩
  have hcompiles := compiles_iff mode c
  cases hc : compile mode c with
  | ok text => simpa [hc] using hcompiles
  | error fault =>
    cases c.fault_of_compile hc
    simpa [hc] using hcompiles

/-- A negation of two operands is told below an operand that is not looked at for its text. -/
example : compile .allFields (.compound "WILD" [.literal "year",
    .compound "near" [.compound "NOT" [.literal "a", .literal ""]]]) =
      .error (.operandCount "NOT") := rfl

end SearchQuery.Condition
