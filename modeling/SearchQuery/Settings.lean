-- Settings: the engines with their addresses, the default one, how conditions compile, and
-- what is logged. Checks turn maps of values into settings.
import SearchQuery.Check
import SearchQuery.Json.Reader
import SearchQuery.Value.Convert

namespace SearchQuery

/-- The settings of one engine. -/
structure EngineConfig where
  enabled : Bool := true
  hosts : List String := []
  indexPattern : String := "*"
  username : Option String := none
  password : Option String := none
  apiKey : Option String := none
  /-- Seconds that a request may take. -/
  timeout : Float := 30
  /-- Arguments that the engine gets as they are. -/
  extra : List (String × Value) := []

/-- The settings of all engines. -/
structure SearchSettings where
  defaultEngine : String := "solr"
  engines : List (String × EngineConfig) := []

/-- What is logged and how. -/
structure LogSettings where
  level : String := "info"
  format : String := "json"
  deriving DecidableEq, Repr

/-- All settings. -/
structure Settings where
  appName : String := "searchrecord"
  debug : Bool := false
  search : SearchSettings := {}
  /-- Whether conditions compile with groups of alternatives. -/
  groupFields : Bool := false
  log : LogSettings := {}

namespace EngineConfig

section

-- How often lists and maps may lie inside each other in a JSON text.
variable (room : Nat)

/-- Hosts from a text: a JSON list of hosts, or a single host. -/
def hostsOfText (s : String) : Checked (List Value) :=
  match Json.read room s with
  | .ok (.list items) => .ok (items.map fun v => .text v.display)
  | .error (.tooManyDigits _) => .flawed .valueError
  | .error (.tooDeep inside) => .abort (.tooDeep inside)
  | _ => .ok (if s == "" then [] else [.text s])

/-- Hosts from a value: a text, or anything that holds them one after the other. -/
def hostsOf (v : Value) : Checked (List Value) :=
  match v.text? with
  | some s => hostsOfText room s
  | none =>
    match v.members with
    | .ok items => .ok items
    | .error fault => .abort fault

def checkHosts (v : Value) : Checked (List String) :=
  (hostsOf room v).andThen (Check.members Check.text)

/-- The settings of an engine from the entries of a map. -/
def ofEntries (es : List (Value × Value)) : Checked EngineConfig :=
  (fun enabled hosts indexPattern username password apiKey timeout extra =>
    { enabled, hosts, indexPattern, username, password, apiKey, timeout, extra })
  <$> Check.field "enabled" true Check.bool es
  <*> Check.field "hosts" [] (checkHosts room) es
  <*> Check.field "index_pattern" "*" Check.text es
  <*> Check.field "username" none (Check.optional Check.text) es
  <*> Check.field "password" none (Check.optional Check.text) es
  <*> Check.field "api_key" none (Check.optional Check.text) es
  <*> Check.field "timeout" 30 Check.positive es
  <*> Check.field "extra" [] (Check.dict Check.anything) es

def check (v : Value) : Checked EngineConfig := (Check.fields v).andThen (ofEntries room)

end

/-- The engine is reached under one address and calls its index a collection. -/
def usesCollections (engine : String) : Bool := engine == "solr"

/-- An argument that is passed on if there is something to pass. -/
def given (name : String) : Option String → List (String × Value)
  | some s => if s == "" then [] else [(name, .text s)]
  | none => []

/-- Where the engine is, under the name that it has for that. -/
def hostArguments (engine : String) : List String → List (String × Value)
  | [] => []
  | host :: more =>
    if usesCollections engine then [("base_url", .text host)]
    else [("hosts", .list ((host :: more).map .text))]

/-- The default index, under the name that the engine has for it; the pattern for every
index is not passed on. -/
def indexArguments (engine pattern : String) : List (String × Value) :=
  if pattern == "" || pattern == "*" then []
  else if usesCollections engine then [("collection", .text pattern)]
  else [("index_pattern", .text pattern)]

/-- The arguments to open an engine with. -/
def arguments (engine : String) (c : EngineConfig) : List (String × Value) :=
  Entries.update
    ([("timeout", .float c.timeout)] ++ hostArguments engine c.hosts ++
      indexArguments engine c.indexPattern ++ given "api_key" c.apiKey ++
      given "username" c.username ++ given "password" c.password)
    c.extra

end EngineConfig

/-- Arguments by name from a map; every name has to be a text. -/
def argumentsOf (v : Value) : Except Fault (List (Value × Value)) :=
  match v with
  | .map entries =>
    if entries.all fun (k, _) => k.text?.isSome then .ok entries else .error .keysNotText
  | other => .error (.settingsNotMapping other.typeName)

namespace SearchSettings

def ofEntries (room : Nat) (es : List (Value × Value)) : Checked SearchSettings :=
  (fun defaultEngine engines => { defaultEngine, engines })
  <$> Check.field "default_adapter" "solr" Check.text es
  <*> Check.field "adapters" [] (Check.dict (EngineConfig.check room)) es

def check (room : Nat) (v : Value) : Checked SearchSettings :=
  (Check.fields v).andThen (ofEntries room)

end SearchSettings

namespace LogSettings

def ofEntries (es : List (Value × Value)) : Checked LogSettings :=
  (fun level format => { level, format })
  <$> Check.field "log_level" "info" Check.text es
  <*> Check.field "log_format" "json" Check.text es

def check (v : Value) : Checked LogSettings := (Check.fields v).andThen ofEntries

end LogSettings

/-- Whether conditions compile with groups, from a map. -/
def checkGroupFields (v : Value) : Checked Bool :=
  (Check.fields v).andThen (Check.field "group_hash_fields" false Check.bool)

end SearchQuery
