-- Settings from variables. The name of a variable is the way to a setting: the name of the
-- program, the section, and the names inside it with two underscores between them. Where a
-- setting holds others, its variable is JSON.
import SearchQuery.Json.Reader
import SearchQuery.Settings
import SearchQuery.Text.Case

namespace SearchQuery.Variables

/-! ## Places for settings -/

/-- What a setting is made of. -/
inductive Shape where
  /-- A text, a number, or yes or no. -/
  | plain
  /-- A list. -/
  | items
  /-- Parts with fixed names. -/
  | parts (fields : List (String × Shape))
  /-- Values of one shape by names that are free. -/
  | named (each : Shape)
  /-- Any value at all. -/
  | anything

/-- What is known of the place that a variable leads to. -/
structure Target where
  shape : Shape
  /-- The place has a name of its own among the settings. -/
  declared : Bool := true

/-- The parts of an engine's settings. -/
def engineShape : Shape := .parts [
  ("enabled", .plain), ("hosts", .items), ("index_pattern", .plain), ("username", .plain),
  ("password", .plain), ("api_key", .plain), ("timeout", .plain), ("extra", .named .anything)]

/-- The sections of the settings, and the settings outside sections. -/
def sections : List (String × Shape) := [
  ("app_name", .plain),
  ("debug", .plain),
  ("search", .parts [("default_adapter", .plain), ("adapters", .named engineShape)]),
  ("compiler", .parts [("group_hash_fields", .plain)]),
  ("observability", .parts [("log_level", .plain), ("log_format", .plain)])]

namespace Shape

/-- The setting holds others. -/
def isComplex : Shape → Bool
  | .plain | .anything => false
  | .items | .parts _ | .named _ => true

end Shape

/-! ## Names -/

/-- How variables are named, and which of them count. -/
structure Naming where
  /-- What the variables of the program start with. -/
  start : String := "SEARCHRECORD_"
  /-- What stands between the names on the way into a section; without it no variable leads
  there. -/
  divider : Option String := some "__"
  /-- The most names on the way into a section; the last one takes what is left. -/
  maxNames : Option Nat := none
  /-- The size of letters matters. -/
  exact : Bool := false
  /-- A variable with an empty value does not count. -/
  skipEmpty : Bool := false
  /-- The value that stands for nothing. -/
  nothing : Option String := none
  deriving DecidableEq, Repr

namespace Naming

/-- A name as it is compared. -/
def fold (n : Naming) (name : String) : String := if n.exact then name else Text.lower name

/-- The variable of a field. -/
def nameOf (n : Naming) (field : String) : String := n.fold (n.start ++ field)

/-- The value of a text: nothing, if it stands for that. -/
def plainValue (n : Naming) (s : String) : Value :=
  if n.nothing == some s then .null else .text s

end Naming

/-- The part of a name among parts, which may be given with the name of the program. -/
def part? (n : Naming) (name : String) (fields : List (String × Shape)) : Option Target :=
  fields.findSome? fun (field, shape) =>
    if n.fold field == name || n.nameOf field == name then some { shape } else none

/-- The place one step further. -/
def Target.next? (n : Naming) (t : Target) (name : String) : Option Target :=
  match t.shape with
  | .parts fields => part? n name fields
  | .named each => some { shape := each, declared := false }
  | _ => none

/-- The place at the end of a way, if the way leads somewhere. -/
def Target.follow? (n : Naming) (t : Target) (way : List String) : Option Target :=
  way.foldl (fun t name => t.bind (·.next? n name)) (some t)

/-! ## Values -/

section

-- How often lists and maps may lie inside each other in a JSON text.
variable (room : Nat)

/-- A value from JSON, none if it is not JSON. JSON that lies too deep is a fault of its own. -/
def decode? (s : String) : Except Fault (Option Value) :=
  match Json.read room s with
  | .ok v => .ok (some v)
  | .error (.tooDeep inside) => .error (.tooDeep inside)
  | .error _ => .ok none

/-- The value of a variable at a place. Where settings are held it has to be JSON; only at a
place without a name of its own it may be something else. -/
def valueAt? (n : Naming) (t : Option Target) (s : Option String) :
    Except Fault (Option Value) :=
  match t, s with
  | _, none => .ok (some .null)
  | none, some s => .ok (some (n.plainValue s))
  | some t, some s =>
    if s == "" || !t.shape.isComplex then .ok (some (n.plainValue s))
    else do
      match ← decode? room s with
      | some v => return some v
      | none => return if t.declared then none else some (n.plainValue s)

end

/-- Puts a value at the end of a way of names. A way that a value blocks leads nowhere. -/
def putAt : List String → String → Value → List (Value × Value) → List (Value × Value)
  | [], last, v, entries => Entries.put (.text last) v entries
  | name :: way, last, v, entries =>
    match entries.lookup (.text name) with
    | some (.map inner) => Entries.put (.text name) (.map (putAt way last v inner)) entries
    | none => Entries.put (.text name) (.map (putAt way last v [])) entries
    | some _ => entries

/-- The pieces of a text between dividers, at most so many as the first argument and one
more. The second argument is what is left of the divider that began before. -/
def splitNames (divider : List Char) : Nat → List Char → List (List Char)
  | _, [] => [[]]
  | 0, cs => [cs]
  | more + 1, c :: rest =>
    if divider.isPrefixOf (c :: rest) then
      [] :: splitNames divider more (rest.drop (divider.length - 1))
    else match splitNames divider (more + 1) rest with
      | [] => [[c]]
      | piece :: pieces => (c :: piece) :: pieces
termination_by _ cs => cs.length
decreasing_by all_goals simp; try omega

/-- The way that a variable leads inside a section: the names before the last one, and the
last one. -/
def way? (n : Naming) (field name : String) : Option (List String × String) := do
  let divider ← n.divider
  let opening := (n.nameOf field ++ divider).toList
  if divider != "" && opening.isPrefixOf name.toList then
    let rest := name.toList.drop opening.length
    let most := match n.maxNames with
      | some count => count - 1
      | none => rest.length
    let names := (splitNames divider.toList most rest).map String.ofList
    some (names.dropLast, names.getLastD "")
  else none

/-! ## Sections -/

mutual
/-- A value laid over another one: of two maps the entries are laid over each other. -/
def laidOver (below : Option Value) : Value → Value
  | .map above =>
    match below with
    | some (.map entries) => .map (layEntries entries above)
    | _ => .map above
  | v => v
/-- Entries laid over others. The keys below keep their places. -/
def layEntries (below : List (Value × Value)) : List (Value × Value) → List (Value × Value)
  | [] => below
  | (k, v) :: rest => layEntries (Entries.put k (laidOver (below.lookup k) v) below) rest
end

/-- Variables under the names by which they are compared. One may be named without a value. -/
abbrev Given := List (String × Option String)

/-- The variables that count, under the names by which they are compared. -/
def given (n : Naming) (pairs : List (String × Option String)) : Given :=
  Entries.ofList ((pairs.filter fun (_, value) => !(n.skipEmpty && value == some "")).map
    fun (name, value) => (n.fold name, value))

section

-- How often lists and maps may lie inside each other in a JSON text.
variable (room : Nat)

/-- What the variables that lead into a section put there, none if one cannot be decoded. -/
def inside? (n : Naming) (vars : Given) (field : String) (shape : Shape) :
    Except Fault (Option (List (Value × Value))) :=
  vars.foldlM (fun entries (name, value) =>
    match entries, way? n field name with
    | some entries, some (way, last) => do
      let v ← valueAt? room n (Target.follow? n { shape } (way ++ [last])) value
      return v.map fun v => putAt way last v entries
    | _, _ => .ok entries) (some [])

/-- The entries with the names of parts in place of names that differ in the size of letters
only. -/
def renamed (shape : Shape) (entries : List (Value × Value)) : List (Value × Value) :=
  match shape with
  | .parts fields => Entries.ofList (entries.map fun (k, v) =>
      match k.text? with
      | some name =>
        match fields.find? fun (field, _) => Text.lower field == Text.lower name with
        | some (field, _) => (.text field, v)
        | none => (k, v)
      | none => (k, v))
  | _ => entries

/-- The entries of a section as they are checked. -/
def settled (n : Naming) (shape : Shape) (entries : List (Value × Value)) : Value :=
  .map (if n.exact then entries else renamed shape entries)

/-- The value of a section, or that there is none; nothing at all if a variable cannot be
decoded. -/
def section? (n : Naming) (vars : Given) (field : String) (shape : Shape) :
    Except Fault (Option (Option Value)) :=
  match (vars.lookup (n.nameOf field)).join, shape with
  | value, .plain => .ok (some (value.map n.plainValue))
  | none, _ => do
    return (← inside? room n vars field shape).map fun entries =>
      if entries.isEmpty then none else some (settled n shape entries)
  | some s, _ => do
    if n.nothing == some s then return some (some .null)
    match ← decode? room s with
    | none => return none
    | some .null => return some none
    | some (.map whole) =>
      return (← inside? room n vars field shape).map fun entries =>
        some (settled n shape (layEntries whole entries))
    | some v => return some (some v)

/-- The settings that variables give; `source` names the place where they come from. -/
def entries (n : Naming) (source : String) (vars : Given) :
    Except Fault (List (Value × Value)) := do
  let found ← sections.mapM fun (field, shape) => do
    match ← section? room n vars field shape with
    | none => .error (.undecodable field source)
    | some v => Except.ok (v.map fun v => (Value.text field, v))
  return found.filterMap id

/-- The settings that texts give, each of them one text; `textOf` knows the text of a
variable, and `source` names the place where they come from. -/
def entriesOfTexts (n : Naming) (source : String) (textOf : String → Option String) :
    Except Fault (List (Value × Value)) := do
  let found ← sections.mapM fun (field, shape) => do
    match textOf (n.nameOf field) with
    | none => return none
    | some s =>
      if !shape.isComplex then return some (Value.text field, Value.text s)
      else match ← decode? room s with
        | none => throw (.undecodable field source)
        | some .null => return none
        | some (.map es) => return some (.text field, settled n shape es)
        | some v => return some (.text field, v)
  return found.filterMap id

end

/-! ## Variables that are no settings -/

/-- The variable belongs to a setting, or leads into a section. -/
def isUsed (n : Naming) (name : String) : Bool :=
  sections.any fun (field, shape) =>
    name == n.nameOf field || (shape.isComplex && (way? n field name).isSome)

/-- The variables with a value that belong to no setting. -/
def spare (n : Naming) (vars : Given) : List (Value × Value) :=
  vars.filterMap fun (name, value) =>
    match value with
    | none => none
    | some s =>
      if s == "" || (n.start != "" && Entries.has name sections) || isUsed n name then none
      else some (.text name, .text s)

end SearchQuery.Variables
