-- The query text of a condition. Operands go into parentheses, empty ones are left out, and
-- the only thing that can go wrong is a negation without exactly one operand.
import SearchQuery.Condition
import SearchQuery.Fault

namespace SearchQuery

/-- What a map of fields means when a field has several values. -/
inductive FieldMode where
  /-- The first field with several values decides alone. -/
  | firstAlternatives
  /-- Every field counts; one with several values is a group of its own. -/
  | allFields
  deriving DecidableEq, Repr

/-- The mode with groups or without. -/
def FieldMode.ofGrouping (grouped : Bool) : FieldMode :=
  if grouped then .allFields else .firstAlternatives

/-- Parts in parentheses with a word between them. -/
def grouped (word : String) (parts : List String) : String :=
  "(" ++ (") " ++ word ++ " (").intercalate parts ++ ")"

/-- Parts with a word between them: none is the empty text and one stays bare. -/
def joined (word : String) : List String → String
  | [] => ""
  | [part] => part
  | parts => grouped word parts

/-- The alternatives of a field. -/
def alternatives (field : String) (texts : List String) : String :=
  joined "OR" (texts.map fun t => field ++ ":" ++ t)

/-- The parts of a map of fields up to the first field with several values; if there is one,
its alternatives are the answer. -/
def firstAlternativesText : List (String × FieldValue) → List String → String
  | [], parts => joined "AND" parts
  | (field, value) :: rest, parts =>
    match value with
    | .many texts => alternatives field texts
    | .one text => firstAlternativesText rest (parts ++ [field ++ ":" ++ text])
    | .absent => firstAlternativesText rest parts

/-- The part that one field adds when every field counts. -/
def fieldPart? : String × FieldValue → Option String
  | (_, .absent) => none
  | (field, .one text) => some (field ++ ":" ++ text)
  | (field, .many texts) =>
    let group := alternatives field texts
    if group == "" then none else some group

/-- The text of a map of fields. -/
def fieldsText (mode : FieldMode) (entries : List (String × FieldValue)) : String :=
  match mode with
  | .firstAlternatives => firstAlternativesText entries []
  | .allFields => joined "AND" (entries.filterMap fieldPart?)

/-- The texts of operands under a word that joins them; empty ones are left out. -/
def junctionText (name : String) (parts : List String) : String :=
  match parts.filter (· != "") with
  | [] => ""
  | kept => grouped name kept

/-- The text of an operand under a word that negates it. -/
def negationText (name part : String) : String :=
  if part == "" then "" else name ++ " (" ++ part ++ ")"

namespace Condition

mutual
/-- The query text of a condition. -/
def compile (mode : FieldMode) : Condition → Except Fault String
  | .literal text => .ok text
  | .fields entries => .ok (fieldsText mode entries)
  | .compound name operands =>
    match Operator.ofName? name with
    | some .and | some .or => (compileAll mode operands).map (junctionText name)
    | some .not =>
      -- The operands are counted before the compiler looks at them.
      match operands with
      | [operand] => (compile mode operand).map (negationText name)
      | _ => .error (.operandCount name)
    | some .wild => do
      if ← compileAny mode operands then (compileAll mode operands).map (" ".intercalate ·)
      else return ""
    | none => (compileAll mode operands).map fun parts => name ++ " " ++ " ".intercalate parts
/-- The query texts of several conditions; the first one that fails decides. -/
def compileAll (mode : FieldMode) : List Condition → Except Fault (List String)
  | [] => .ok []
  | c :: cs => do
    let text ← compile mode c
    let texts ← compileAll mode cs
    .ok (text :: texts)
/-- Whether one of several conditions has a text that is not empty; those behind the first such
one are not looked at. -/
def compileAny (mode : FieldMode) : List Condition → Except Fault Bool
  | [] => .ok false
  | c :: cs => do
    if (← compile mode c) != "" then return true
    else compileAny mode cs
end

/-- The query text of an optional condition; without one it is empty. -/
def compileWhere (mode : FieldMode) : Option Condition → Except Fault String
  | none => .ok ""
  | some c => c.compile mode

end Condition

end SearchQuery
