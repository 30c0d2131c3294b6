-- What a search asks an engine for. A request is filled in step by step and nothing is
-- checked on the way, so its parts are values of any kind.
import SearchQuery.Fault
import SearchQuery.Value

namespace SearchQuery

/-- A request to an engine. -/
structure Request where
  /-- The index to search, the engine's own one if there is none. -/
  index : Option String := none
  query : Value := .text ""
  /-- Columns in order of priority, each with whether it ascends. -/
  sort : List (Value × Value) := []
  limit : Value := .null
  offset : Value := .int 0
  /-- Whether any term may match instead of all. -/
  fuzzy : Value := .bool false

namespace Request

def setQuery (r : Request) (query : Value) : Request := { r with query }

/-- Sorts by one column, in place of any sort before. -/
def setSort (r : Request) (column ascending : Value) : Request :=
  { r with sort := [(column, ascending)] }

/-- Sorts by the columns of a map, in place of any sort before. -/
def setMultiSort (r : Request) : Value → Except Fault Request
  | .map entries => .ok { r with sort := entries }
  | other => .error (.noMember other.typeName "items")

def setLimit (r : Request) (limit offset : Value) : Request := { r with limit, offset }

def setFuzzy (r : Request) (fuzzy : Value) : Request := { r with fuzzy }

/-- Sorts by columns; without any the sort stays as it is. -/
def applySort (r : Request) (columns : List (String × Bool)) : Request :=
  if columns.isEmpty then r
  else { r with sort := columns.map fun (name, up) => (.text name, .bool up) }

end Request

end SearchQuery
