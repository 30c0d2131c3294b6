-- Values in words. `shown` writes a value as it stands inside others, with quotes around
-- texts; `display` writes texts bare; `queryText` is what a query holds for it. A value that
-- holds a number too long to be written is overlong, and is refused before it is put in words.
import SearchQuery.Decimal.Read
import SearchQuery.Decimal.Shortest
import SearchQuery.Fault
import SearchQuery.Text.Quoted
import SearchQuery.Value

namespace SearchQuery

/-- Parts between brackets, with commas. -/
def bracketed (opening : String) (parts : List String) (closing : String) : String :=
  opening ++ ", ".intercalate parts ++ closing

/-- Parts as a tuple: a single one is followed by a comma. -/
def tupled : List String → String
  | [part] => "(" ++ part ++ ",)"
  | parts => bracketed "(" parts ")"

/-- A field's value as it stands inside a condition. -/
def FieldValue.shown : FieldValue → String
  | .absent => "None"
  | .one text => Text.quoted text
  | .many texts => tupled (texts.map Text.quoted)

/-- The fields of a condition as they stand inside it. -/
def shownFields (entries : List (String × FieldValue)) : String :=
  tupled (entries.map fun (field, value) => tupled [Text.quoted field, value.shown])

namespace Condition

mutual
/-- A condition as it stands inside other values. -/
def shown : Condition → String
  | .literal text => "LiteralNode(text=" ++ Text.quoted text ++ ")"
  | .fields entries => "FieldMapNode(entries=" ++ shownFields entries ++ ")"
  | .compound name operands =>
    "OperatorNode(name=" ++ Text.quoted name ++ ", operands=" ++ tupled (shownAll operands) ++ ")"
/-- Conditions as they stand inside other values, one by one. -/
def shownAll : List Condition → List String
  | [] => []
  | c :: cs => shown c :: shownAll cs
end

/-- A condition on its own. -/
def display : Condition → String
  | .literal text => "text=" ++ Text.quoted text
  | .fields entries => "entries=" ++ shownFields entries
  | .compound name operands =>
    "name=" ++ Text.quoted name ++ " operands=" ++ tupled (shownAll operands)

end Condition

namespace Direction

/-- The name of a direction as a member of its type. -/
def memberName : Direction → String
  | .ascending => "SortDirection.ASC"
  | .descending => "SortDirection.DESC"

end Direction

namespace Value

mutual
/-- A value as it stands inside others. -/
def shown : Value → String
  | .null => "None"
  | .bool b => if b then "True" else "False"
  | .int n => toString n
  | .float x => Decimal.floatText x
  | .text s => Text.quoted s
  | .bytes b => Text.quotedBytes b
  | .list items => bracketed "[" (shownAll items) "]"
  | .tuple items => tupled (shownAll items)
  | .map entries => bracketed "\x7b" (shownEntries entries) "\x7d"
  | .set items =>
    if items.isEmpty then "set()" else bracketed "\x7b" (shownAll items) "\x7d"
  | .frozenSet items =>
    if items.isEmpty then "frozenset()"
    else bracketed "frozenset(\x7b" (shownAll items) "\x7d)"
  | .direction d => "<" ++ d.memberName ++ ": '" ++ d.name ++ "'>"
  | .operator o => "<Operator." ++ o.name ++ ": '" ++ o.name ++ "'>"
  | .moment m => m.shown
  | .condition c => c.shown
/-- Values as they stand inside others, one by one. -/
def shownAll : List Value → List String
  | [] => []
  | v :: vs => shown v :: shownAll vs
/-- Entries of a map, one by one. -/
def shownEntries : List (Value × Value) → List String
  | [] => []
  | (k, v) :: rest => (shown k ++ ": " ++ shown v) :: shownEntries rest
end

/-- A value on its own: texts are bare, members of a type go by their full name. -/
def display : Value → String
  | .text s => s
  | .direction d => d.memberName
  | .operator o => "Operator." ++ o.name
  | .moment m => m.text
  | .condition c => c.display
  | v => v.shown

/-- What a query holds for a value: nothing for nothing, small letters for yes and no. -/
def queryText : Value → String
  | .null => ""
  | .bool b => if b then "true" else "false"
  | v => v.display

mutual
/-- Whether a value holds a whole number with more digits than are written. -/
def isOverlong : Value → Bool
  | .int n => Decimal.isOverlong n
  | .list items | .tuple items | .set items | .frozenSet items => anyOverlong items
  | .map entries => anyOverlongEntry entries
  | _ => false
/-- Whether one of several values does. -/
def anyOverlong : List Value → Bool
  | [] => false
  | v :: vs => isOverlong v || anyOverlong vs
/-- Whether a key or a value of a map does. -/
def anyOverlongEntry : List (Value × Value) → Bool
  | [] => false
  | (k, v) :: rest => isOverlong k || isOverlong v || anyOverlongEntry rest
end

theorem anyOverlong_eq_any (vs : List Value) : anyOverlong vs = vs.any isOverlong := by
  induction vs with
  | nil => rfl
  | cons v vs ih => rw [anyOverlong, ih, List.any_cons]

/-- A value in words, if every number in it can be written. -/
def inWords (words : Value → String) (v : Value) : Except Fault String :=
  if v.isOverlong then .error (.tooManyDigits none) else .ok (words v)

@[simp]
theorem display_text (s : String) : (text s).display = s := rfl

@[simp]
theorem queryText_text (s : String) : (text s).queryText = s := rfl

end Value

end SearchQuery
