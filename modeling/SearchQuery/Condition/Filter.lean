-- Conditions without the parts that ask for nothing: blank texts, fields without a value,
-- operators without operands.
import SearchQuery.Condition
import SearchQuery.Text.Blank

namespace SearchQuery

/-- The field is asked for nothing: no value, a blank text, or no alternatives. -/
def FieldValue.isEmpty : FieldValue → Bool
  | .absent => true
  | .one text => Text.allBlank text
  | .many texts => texts.isEmpty

namespace Condition

mutual
/-- The condition without its empty parts, none if nothing is left. Empty operands of the
words that join conditions are dropped; an operator of any other kind goes with its first
empty operand, and a negation of several operands stays as it is. -/
def filtered : Condition → Option Condition
  | .literal text => if Text.allBlank text then none else some (.literal text)
  | .fields entries =>
    match entries.filter fun (_, value) => !value.isEmpty with
    | [] => none
    | kept => some (.fields kept)
  | .compound name operands =>
    let parts := filteredAll operands
    match Operator.ofName? name with
    | some .and | some .or =>
      match parts.filterMap id with
      | [] => none
      | kept => some (.compound name kept)
    | some .not =>
      match parts with
      | [part] => part.map fun kept => .compound name [kept]
      | _ => some (.compound name operands)
    | some .wild | none =>
      if parts.any Option.isNone then none else some (.compound name operands)
/-- Each of several conditions without its empty parts. -/
def filteredAll : List Condition → List (Option Condition)
  | [] => []
  | c :: cs => filtered c :: filteredAll cs
end

theorem filteredAll_eq_map (cs : List Condition) : filteredAll cs = cs.map filtered := by
  induction cs with
  | nil => rfl
  | cons c cs ih => rw [filteredAll, ih, List.map_cons]

theorem filtered_fields (entries : List (String × FieldValue)) :
    filtered (.fields entries) =
      let kept := entries.filter fun entry => !entry.2.isEmpty
      if kept = [] then none else some (.fields kept) := by
  have hkept : (entries.filter fun (_, value) => !value.isEmpty) =
      entries.filter fun entry => !entry.2.isEmpty := rfl
  rw [filtered, hkept]
  split
  · next h => simp [h]
  · next h => rw [if_neg h]

/-- Of a junction those operands are left of which something is left. -/
theorem filtered_junction {name : String} (h : name = "AND" ∨ name = "OR")
    (operands : List Condition) :
    filtered (.compound name operands) =
      let kept := operands.filterMap filtered
      if kept = [] then none else some (.compound name kept) := by
  have hkind : Operator.ofName? name = some .and ∨ Operator.ofName? name = some .or := by
    rcases h with rfl | rfl <;> decide
  have hkept : (filteredAll operands).filterMap id = operands.filterMap filtered := by
    rw [filteredAll_eq_map, List.filterMap_map]
    rfl
  rw [filtered]
  rcases hkind with hkind | hkind
  · simp only [hkind, hkept]
    split <;> simp_all
  · simp only [hkind, hkept]
    split <;> simp_all

theorem filtered_negation (o : Condition) :
    filtered (.compound "NOT" [o]) = (filtered o).map fun kept => .compound "NOT" [kept] := by
  have hkind : Operator.ofName? "NOT" = some .not := Operator.ofName?_name .not
  rw [filtered]
  simp only [hkind, filteredAll]

theorem filtered_malformed {operands : List Condition} (h : operands.length ≠ 1) :
    filtered (.compound "NOT" operands) = some (.compound "NOT" operands) := by
  have hkind : Operator.ofName? "NOT" = some .not := Operator.ofName?_name .not
  rw [filtered, filteredAll_eq_map]
  match operands with
  | [] => simp [hkind]
  | [o] => exact absurd rfl h
  | o :: p :: operands => simp [hkind]

/-- Under any other word all operands stay, or none. -/
theorem filtered_row {name : String} (h : name ∉ ["AND", "OR", "NOT"])
    (operands : List Condition) :
    filtered (.compound name operands) =
      if ∃ o ∈ operands, filtered o = none then none else some (.compound name operands) := by
  rw [filtered, filteredAll_eq_map]
  cases hop : Operator.ofName? name with
  | none => simp
  | some o =>
    have hname := Operator.ofName?_eq_some_iff.mp hop
    cases o with
    | and | or | not => simp [hname, Operator.name] at h
    | wild => simp

/-- A compound condition is a junction, a negation of one operand, one of none or of several,
or a row under another word. -/
theorem compound_kinds (name : String) (operands : List Condition) :
    (name = "AND" ∨ name = "OR") ∨ (∃ o, name = "NOT" ∧ operands = [o]) ∨
      (name = "NOT" ∧ operands.length ≠ 1) ∨ name ∉ ["AND", "OR", "NOT"] := by
  by_cases hnot : name = "NOT"
  · by_cases hone : operands.length = 1
    · obtain ⟨o, ho⟩ := List.length_eq_one_iff.mp hone
      exact Or.inr (Or.inl ⟨o, hnot, ho⟩)
    · exact Or.inr (Or.inr (Or.inl ⟨hnot, hone⟩))
  · by_cases hjunction : name = "AND" ∨ name = "OR"
    · exact Or.inl hjunction
    · simp [hnot] at hjunction ⊢
      simp [hjunction]

end Condition

end SearchQuery
