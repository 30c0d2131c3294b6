-- What a caller says about variables: how they are named, and in which files they are. The
-- caller says it among the settings, under names of its own.
import SearchQuery.Settings.Variables
import SearchQuery.Text.Encoding

namespace SearchQuery.Settings

/-- Where to look for variables, and how they are named. -/
structure Sources where
  naming : Variables.Naming := {}
  /-- The files of variables; a later one has the last word. -/
  files : List String := [".env"]
  /-- How the files are read. A name that stands for no encoding does no harm without files. -/
  encoding : Except Fault Text.Encoding := .ok .utf8
  /-- The directories with a file for each setting; a later one has the last word. -/
  directories : Except Fault (List String) := .ok []
  /-- What is wrong with the words of a command line. None of them are used. -/
  misgiven : Option Fault := none

/-- The paths in a value: a single one, or several. -/
def pathsOf (v : Value) : Except Fault (List String) :=
  match v.text?, v with
  | some path, _ => .ok [path]
  | none, .null => .ok []
  | none, v => do
    (← v.members).mapM fun item =>
      match item.text? with
      | some path => .ok path
      | none => .error (.notAPath item.typeName)

namespace Sources

/-- What says where to look for variables. -/
def naming? (name : String) : Bool := [
  "_case_sensitive", "_env_prefix", "_env_file", "_env_file_encoding", "_env_ignore_empty",
  "_env_nested_delimiter", "_env_nested_max_split", "_env_parse_none_str", "_secrets_dir",
  "_cli_parse_args"].contains name

/-- What says something about other ways to settings, none of which is used. -/
def idle (name : String) : Bool := [
  "_nested_model_default_partial_update", "_env_prefix_target", "_env_parse_enums",
  "_cli_prog_name", "_cli_settings_source", "_cli_parse_none_str", "_cli_hide_none_type",
  "_cli_avoid_json", "_cli_enforce_required", "_cli_use_class_docs_for_groups",
  "_cli_exit_on_error", "_cli_prefix", "_cli_flag_prefix_char", "_cli_implicit_flags",
  "_cli_ignore_unknown_args", "_cli_kebab_case", "_cli_shortcuts", "_build_sources"].contains name

/-- The value of a name, if there is one that is not nothing. -/
def said? (name : String) (es : List (Value × Value)) : Option Value :=
  match Value.field? name es with
  | some .null => none
  | v => v

/-- The encoding that a value names; without a name it is the usual one. -/
def encodingOf (v : Option Value) : Except Fault Text.Encoding :=
  match v with
  | none => .ok .utf8
  | some v =>
    if !v.isTruthy then .ok .utf8
    else match v.text? with
      | some name => Text.Encoding.ofName name
      | none => .error (.encodingNotText v.typeName)

/-- The words of a command line have to be a list. Yes stands for those of the program, and
no for none. -/
def misgivenWords? (v : Option Value) : Option Fault :=
  match v with
  | none | some (.bool true) | some (.list _) | some (.tuple _) => none
  | some v => if v == .bool false then none else some (.wordsNotListed v.typeName)

/-- What the caller's entries say about the names of variables. -/
def namingOf (es : List (Value × Value)) : Variables.Naming :=
  let said (name : String) := said? name es
  let flag (name : String) (default : Bool) := ((said name).map Value.isTruthy).getD default
  let word (name : String) : Option String := (said name).bind Value.text?
  let usual : Variables.Naming := {}
  { start := (word "_env_prefix").getD usual.start
    divider := word "_env_nested_delimiter" <|> usual.divider
    maxNames := match said "_env_nested_max_split" with
      | some (.int n) => if 0 < n then some n.toNat else none
      | some (.bool b) => if b then some 1 else none
      | _ => usual.maxNames
    exact := flag "_case_sensitive" usual.exact
    skipEmpty := flag "_env_ignore_empty" usual.skipEmpty
    nothing := word "_env_parse_none_str" <|> usual.nothing }

/-- What the caller's entries say about variables. -/
def ofEntries (es : List (Value × Value)) : Except Fault Sources := do
  let files ← match Value.field? "_env_file" es with
    | some v => pathsOf v
    | none => pure [".env"]
  return {
    naming := namingOf es, files
    encoding := encodingOf (said? "_env_file_encoding" es)
    directories := pathsOf ((said? "_secrets_dir" es).getD .null)
    misgiven := misgivenWords? (said? "_cli_parse_args" es) }

end Sources

/-- The entries that are meant for settings, under the names of the settings. Unless the size
of letters matters a name may come in several spellings: the right one counts, else the
first. -/
def named (exact : Bool) (es : List (Value × Value)) : List (Value × Value) :=
  let isOption (name : String) : Bool := Sources.naming? name || Sources.idle name
  let es := es.filter fun (k, _) => !k.text?.any isOption
  let fits (field : String) (e : Value × Value) : Bool := e.1.text?.any fun name =>
    name == field || (!exact && Text.lower name == Text.lower field)
  let fields := Entries.keys Variables.sections
  let found := fields.filterMap fun field =>
    let spellings := es.filter (fits field)
    (spellings.find? (·.1.text? == some field) <|> spellings.head?).map fun (_, v) =>
      (.text field, v)
  found ++ es.filter fun e => !fields.any (fits · e)

end SearchQuery.Settings
