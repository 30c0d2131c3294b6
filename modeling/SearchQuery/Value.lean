-- Values as callers hand them over and engines send them: numbers, texts, lists and maps
-- of any depth. Maps keep the order in which their keys came.
import SearchQuery.Condition
import SearchQuery.Decimal.Binary
import SearchQuery.Moment

namespace SearchQuery

/-- The order of a sort column. -/
inductive Direction where
  | ascending | descending
  deriving DecidableEq, Repr

/-- The word for a direction. -/
def Direction.name : Direction → String
  | .ascending => "asc"
  | .descending => "desc"

/-- A value. -/
inductive Value where
  | null
  | bool (b : Bool)
  | int (n : Int)
  | float (x : Float)
  | text (s : String)
  | bytes (b : List UInt8)
  | list (items : List Value)
  | tuple (items : List Value)
  | map (entries : List (Value × Value))
  | set (items : List Value)
  | frozenSet (items : List Value)
  /-- A sort direction; it counts as a text. -/
  | direction (d : Direction)
  /-- An operator; it counts as a text. -/
  | operator (o : Operator)
  /-- A date, alone or with a time of day. -/
  | moment (m : Moment)
  /-- A condition that is read already. -/
  | condition (c : Condition)

namespace Value

instance : Inhabited Value := ⟨.null⟩

/-- The name of a value's type in messages. -/
def typeName : Value → String
  | .null => "NoneType"
  | .bool _ => "bool"
  | .int _ => "int"
  | .float _ => "float"
  | .text _ => "str"
  | .bytes _ => "bytes"
  | .list _ => "list"
  | .tuple _ => "tuple"
  | .map _ => "dict"
  | .set _ => "set"
  | .frozenSet _ => "frozenset"
  | .direction _ => "SortDirection"
  | .operator _ => "Operator"
  | .moment m => m.typeName
  | .condition (.literal _) => "LiteralNode"
  | .condition (.fields _) => "FieldMapNode"
  | .condition (.compound ..) => "OperatorNode"

/-- The characters of a value that counts as a text. -/
def text? : Value → Option String
  | .text s => some s
  | .direction d => some d.name
  | .operator o => some o.name
  | _ => none

/-- Whether a value counts as yes: zero, the empty ones and nothing do not. -/
def isTruthy : Value → Bool
  | .null => false
  | .bool b => b
  | .int n => n != 0
  | .float x => !Decimal.isZero x
  | .text s => s != ""
  | .bytes b => !b.isEmpty
  | .list items | .tuple items | .set items | .frozenSet items => !items.isEmpty
  | .map entries => !entries.isEmpty
  | .direction _ | .operator _ | .moment _ | .condition _ => true

/-- The first of two values if it counts as yes, else the second. -/
def orElse (a b : Value) : Value := if a.isTruthy then a else b

/-- An optional text as a value. -/
def ofText? : Option String → Value
  | some s => .text s
  | none => .null

/-- A field's value inside a condition as a value of its own. -/
def ofFieldValue : FieldValue → Value
  | .absent => .null
  | .one s => .text s
  | .many texts => .tuple (texts.map .text)

/-- The parts of a condition, each behind its name. -/
def namedParts : Condition → List Value
  | .literal s => [.tuple [.text "text", .text s]]
  | .fields entries =>
    [.tuple [.text "entries", .tuple (entries.map fun (field, value) =>
      .tuple [.text field, ofFieldValue value])]]
  | .compound name operands =>
    [.tuple [.text "name", .text name], .tuple [.text "operands", .tuple (operands.map .condition)]]

/-- A map with texts as keys. -/
def ofFields (fields : List (String × Value)) : Value :=
  .map (fields.map fun (name, v) => (.text name, v))

end Value

end SearchQuery
