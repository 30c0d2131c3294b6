-- Conditions as callers write them: a text, a map of fields, or a list that starts with an
-- operator word. `ofValue` reads a whole condition, `ofOperand` one operand of a list, and
-- `read` refuses a value with a number that cannot be written.
import SearchQuery.Fault
import SearchQuery.Text.Case
import SearchQuery.Value.Text

namespace SearchQuery

/-- What a field is asked for, from its value in a map: several texts for anything that
lists values, one text for the rest. -/
def FieldValue.ofValue : Value → FieldValue
  | .null => .absent
  | .list items | .tuple items | .set items | .frozenSet items =>
    .many (items.map Value.queryText)
  | v => .one v.queryText

namespace Condition

/-- The fields of a map. -/
def ofEntries (entries : List (Value × Value)) : Condition :=
  .fields (entries.map fun (k, v) => (k.display, FieldValue.ofValue v))

mutual
/-- An operand. Whatever is no map and no list is the text that a query holds for it. -/
def ofOperand : Value → Condition
  | .condition c => c
  | .map entries => ofEntries entries
  | .list items => ofSequence items
  | .tuple items => ofSequence items
  | v => .literal v.queryText
/-- An operator word in capitals and its operands; the empty list asks for nothing. -/
def ofSequence : List Value → Condition
  | [] => nothing
  | head :: rest => .compound (Text.upper head.queryText) (ofOperands rest)
/-- Operands in order. -/
def ofOperands : List Value → List Condition
  | [] => []
  | v :: vs => ofOperand v :: ofOperands vs
end

/-- A whole condition. Unlike an operand, no value at all is no fields, and a word of a
fixed set stands for its characters. -/
def ofValue : Value → Condition
  | .null => nothing
  | .direction d => .literal d.name
  | .operator o => .literal o.name
  | v => ofOperand v

/-- The condition that a caller hands over, if every number in it can be written. -/
def read (v : Value) : Except Fault Condition :=
  if v.isOverlong then .error (.tooManyDigits none) else .ok (ofValue v)

theorem read_of_short {v : Value} (h : v.isOverlong = false) : read v = .ok (ofValue v) :=
  if_neg (by rw [h]; exact Bool.false_ne_true)

theorem read_of_overlong {v : Value} (h : v.isOverlong = true) :
    read v = .error (.tooManyDigits none) := if_pos h

end Condition

end SearchQuery
