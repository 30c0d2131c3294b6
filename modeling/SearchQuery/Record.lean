-- Record types and their records. A type names the fields that it wants; every other field
-- of a row is kept beside them, in the order of the row.
import SearchQuery.Check

namespace SearchQuery

/-- The kind of a declared field. -/
inductive FieldKind where
  | text
  | number
  deriving DecidableEq, Repr

/-- A declared field. An optional one may be left out or hold nothing. -/
structure FieldRule where
  name : String
  kind : FieldKind
  optional : Bool
  deriving DecidableEq, Repr

/-- A record type. -/
structure RecordType where
  name : String
  /-- The index of its records; the name in small letters stands for an empty one. -/
  index : String := ""
  fields : List FieldRule := []
  /-- The field that is called out whenever a query has found a record. -/
  announces : Option String := none
  deriving DecidableEq, Repr

/-- A record: the name of its type, and its fields in order. -/
structure Record where
  type : String
  fields : List (String × Value)

namespace FieldRule

/-- Checks a value against the kind of the field. -/
def checkKind (rule : FieldRule) (v : Value) : Checked Value :=
  match rule.kind with
  | .text => (Check.text v).map .text
  | .number => (Check.int v).map .int

/-- The value that a row has for the field. -/
def check (rule : FieldRule) (row : List (Value × Value)) : Checked (String × Value) :=
  let value :=
    if rule.optional then
      Check.field rule.name .null
        (fun v => (Check.optional rule.checkKind v).map (·.getD .null)) row
    else Check.required rule.name rule.checkKind row
  value.map fun v => (rule.name, v)

end FieldRule

namespace RecordType

/-- The index that holds the records of this type. -/
def indexName (t : RecordType) : String :=
  if t.index == "" then Text.lower t.name else t.index

/-- The key is a declared field. -/
def declares (t : RecordType) (key : Value) : Bool :=
  t.fields.any fun rule => key.text? == some rule.name

/-- A field of a row that is not declared; its key has to be a text. -/
def checkExtra : Value × Value → Checked (String × Value)
  | (k, v) =>
    match k.text? with
    | some name => .ok (name, v)
    | none => .issues [⟨[Check.step k], .invalidKey⟩]

/-- The record of a row. -/
def populate (t : RecordType) (row : Value) : Checked Record :=
  (Check.fields row).andThen fun entries =>
    let declared := Checked.all (t.fields.map (·.check entries))
    let extras := (entries.filter fun (k, _) => !t.declares k).map checkExtra
    (Checked.both declared (.all extras)).map fun (fields, more) =>
      { type := t.name, fields := fields ++ more }

/-- The records of several rows; the first row that does not fit decides. -/
def populateAll (t : RecordType) (rows : List Value) : Except Fault (List Record) :=
  rows.mapM fun row => (t.populate row).toExcept

end RecordType

end SearchQuery
