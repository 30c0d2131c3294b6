-- Collects a query call by call. Before `build` nothing is checked but sort columns, and
-- whether what a condition holds can be written.
import SearchQuery.Condition.Filter
import SearchQuery.Condition.Parse
import SearchQuery.Spec

namespace SearchQuery

/-- A query in the making. -/
structure Builder where
  condition : Option Condition := none
  columns : Columns := []
  limit : Value := .null
  offset : Value := .null
  fuzzy : Value := .bool false
  asArray : Value := .bool false
  indexBy : Value := .null

namespace Builder

/-- One call on a builder. -/
inductive Call where
  /-- Replaces the condition. -/
  | condition (v : Value)
  /-- A further condition that must hold. -/
  | andCondition (v : Value)
  /-- A further condition that may hold instead. -/
  | orCondition (v : Value)
  /-- Replaces the condition by what is left of another one without its empty parts. -/
  | filter (v : Value)
  | andFilter (v : Value)
  | orFilter (v : Value)
  /-- Replaces the sort columns. -/
  | orderBy (v : Value)
  /-- Further sort columns, of less weight. -/
  | addOrderBy (v : Value)
  | limit (v : Value)
  | offset (v : Value)
  | fuzzy (v : Value)
  | asArray (v : Value)
  | indexBy (v : Value)

/-- The current condition and another one under an operator. An operand is added to a node
of the same operator; without a current condition the other one stands alone. -/
def combine (operator : Operator) (node : Condition) : Option Condition → Condition
  | none => node
  | some (.compound name operands) =>
    if name == operator.name then .compound name (operands ++ [node])
    else .compound operator.name [.compound name operands, node]
  | some other => .compound operator.name [other, node]

/-- Adds a condition under an operator. -/
def add (b : Builder) (operator : Operator) (node : Condition) : Builder :=
  { b with condition := some (combine operator node b.condition) }

/-- A condition without its empty parts. -/
def kept (v : Value) : Except Fault (Option Condition) :=
  (Condition.read v).map Condition.filtered

/-- The builder after one call. -/
def apply (b : Builder) : Call → Except Fault Builder
  | .condition .null => .ok { b with condition := none }
  | .condition v => (Condition.read v).map fun node => { b with condition := some node }
  | .andCondition v => (Condition.read v).map (b.add .and)
  | .orCondition v => (Condition.read v).map (b.add .or)
  | .filter v => (kept v).map fun
    | some node => { b with condition := some node }
    | none => b
  | .andFilter v => (kept v).map fun
    | some node => b.add .and node
    | none => b
  | .orFilter v => (kept v).map fun
    | some node => b.add .or node
    | none => b
  | .orderBy v => (Columns.ofValue v).map fun columns => { b with columns }
  | .addOrderBy v => (Columns.ofValue v).map fun columns =>
    { b with columns := Entries.update b.columns columns }
  | .limit v => .ok { b with limit := v }
  | .offset v => .ok { b with offset := v }
  | .fuzzy v => .ok { b with fuzzy := v }
  | .asArray v => .ok { b with asArray := v }
  | .indexBy v => .ok { b with indexBy := v }

/-- The query as checked, all issues together. -/
def check (b : Builder) : Checked Spec :=
  (fun limit offset fuzzy asArray indexBy =>
    { condition := b.condition, columns := b.columns, limit, offset, fuzzy, asArray, indexBy })
  <$> (Check.bound b.limit).inside "limit"
  <*> (Check.bound b.offset).inside "offset"
  <*> (Check.bool b.fuzzy).inside "fuzzy"
  <*> (Check.bool b.asArray).inside "as_array"
  <*> (Check.optional Check.text b.indexBy).inside "index_by"

/-- The query that was collected. -/
def build (b : Builder) : Except Fault Spec := b.check.toExcept

/-- A query that was built has the parts of the builder, as checked. -/
theorem parts_of_build {b : Builder} {spec : Spec} (h : b.build = .ok spec) :
    spec.condition = b.condition ∧ spec.columns = b.columns ∧
      Check.bound b.limit = .ok spec.limit ∧ Check.bound b.offset = .ok spec.offset ∧
      Check.bool b.fuzzy = .ok spec.fuzzy ∧ Check.bool b.asArray = .ok spec.asArray ∧
      Check.optional Check.text b.indexBy = .ok spec.indexBy := by
  rw [build, Checked.toExcept_eq_ok, check] at h
  simp only [Checked.seq_eq_ok, Checked.fmap_eq_ok, Checked.inside_eq_ok] at h
  obtain ⟨_, _, ⟨_, _, ⟨_, _, ⟨_, _, ⟨_, hlimit, rfl⟩, hoffset, rfl⟩, hfuzzy, rfl⟩, harray,
    rfl⟩, hindex, rfl⟩ := h
  exact ⟨rfl, rfl, hlimit, hoffset, hfuzzy, harray, hindex⟩

end Builder

end SearchQuery
