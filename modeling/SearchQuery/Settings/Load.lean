-- Where settings come from: what the caller gives comes first, then the variables, then the
-- files of variables, then the files with one setting each, then the defaults. Maps are laid
-- over each other entry by entry.
import SearchQuery.Settings.EnvFile
import SearchQuery.Settings.Sources
import SearchQuery.Surroundings
import SearchQuery.Yaml.Reader

namespace SearchQuery.Settings

/-! ## Checking -/

/-- Every entry has the name of a setting. -/
def checkNames (es : List (Value × Value)) : Checked Unit :=
  let spare := es.filterMap fun (k, _) =>
    match k.text? with
    | some name =>
      if Entries.has name Variables.sections then none else some ⟨[name], .extraForbidden⟩
    | none => none
  if spare.isEmpty then .ok () else .issues spare

/-- The settings from the entries of a map. -/
def ofEntries (room : Nat) (es : List (Value × Value)) : Checked Settings :=
  (fun appName debug search groupFields log _ => { appName, debug, search, groupFields, log })
  <$> Check.field "app_name" "searchrecord" Check.text es
  <*> Check.field "debug" false Check.bool es
  <*> Check.field "search" {} (SearchSettings.check room) es
  <*> Check.field "compiler" false checkGroupFields es
  <*> Check.field "observability" {} LogSettings.check es
  <*> checkNames es

/-! ## Loading -/

/-- What came of loading: settings or a fault, and what is told about files of variables. -/
structure Loaded where
  told : List String := []
  settings : Except Fault Settings

def Loaded.failed (fault : Fault) : Loaded := { settings := .error fault }

/-- The variables in files, and what is told about them. -/
def envFiles (s : Surroundings) (sources : Sources) : List String × Except Fault Variables.Given :=
  sources.files.foldl (fun (told, found) path =>
    match found, s.at? path with
    | .ok vars, .file text =>
      match sources.encoding.bind (·.reread text) with
      | .ok text =>
        let more := Variables.given sources.naming (EnvFile.read s.environment text)
        (told ++ EnvFile.warnings text, .ok (Entries.update vars more))
      | .error fault => (told, .error fault)
    | .ok _, .tooLong => (told, .error (.nameTooLong (Path.tidy path)))
    | found, _ => (told, found)) ([], .ok [])

/-- The files of a directory; a directory that is not there has none. -/
def filesIn (s : Surroundings) (path : String) : Except Fault (List (String × String)) :=
  match s.at? path with
  | .missing => .ok []
  | .directory => .ok (s.filesIn path)
  | .file _ => .error (.notADirectory "file")
  | .tooLong => .error (.nameTooLong (Path.tidy path))

/-- The settings that have a file of their own. Of several directories the last one with such
a file counts. -/
def fromDirectories (s : Surroundings) (sources : Sources) :
    Except Fault (List (Value × Value)) := do
  let directories ← (← sources.directories).mapM (filesIn s)
  Variables.entriesOfTexts s.settingsRoom sources.naming "SecretsSettingsSource" fun name =>
    directories.reverse.findSome? fun files =>
      (files.find? fun (file, _) => sources.naming.fold file == name).map fun (_, text) =>
        String.ofList (Text.trimBy Text.isBlank text.toList)

/-- The settings from the entries of the caller, the variables, the variables in files, and
the files of directories. -/
def merge (s : Surroundings) (sources : Sources) (given : List (Value × Value))
    (file : Variables.Given) : Except Fault Settings := do
  if let some fault := sources.misgiven then throw fault
  let n := sources.naming
  let vars := Variables.given n (s.environment.map fun (name, value) => (name, some value))
  let fromVariables ← Variables.entries s.settingsRoom n "EnvSettingsSource" vars
  let fromFile ← Variables.entries s.settingsRoom n "DotEnvSettingsSource" file
  let above := Variables.layEntries fromVariables (named n.exact given)
  let above := Variables.layEntries (fromFile ++ Variables.spare n file) above
  (ofEntries s.settingsRoom (Variables.layEntries (← fromDirectories s sources) above)).toExcept

/-- The caller gives the settings object itself as an argument. -/
def selfName : String := "__pydantic_self__"

/-- Settings from what the caller gives and what is around. -/
def load (s : Surroundings) (given : List (Value × Value)) : Loaded :=
  if (Value.field? selfName given).isSome then
    .failed (.repeatedArgument "BaseSettings.__init__" selfName)
  else match Sources.ofEntries given with
    | .error fault => .failed fault
    | .ok sources =>
      let (told, file) := envFiles s sources
      { told, settings := do merge s sources given (← file) }

/-- What a YAML file gives; an empty one gives nothing. -/
def givenBy (path text : String) : Except Fault (List (Value × Value)) := do
  argumentsOf ((← Yaml.read path text).orElse (.map []))

/-- The files of variables that a YAML file names. -/
def filesNamedBy (path text : String) : List String :=
  match (givenBy path text).bind Sources.ofEntries with
  | .ok sources => sources.files
  | .error _ => []

/-- Settings from a YAML file and what is around. -/
def loadFile (s : Surroundings) (path : String) : Loaded :=
  let path := Path.tidy path
  match s.at? path with
  | .missing => .failed (.fileMissing path)
  | .directory => .failed (.isDirectory path)
  | .tooLong => .failed (.nameTooLong path)
  | .file text =>
    match givenBy path text with
    | .error fault => .failed fault
    | .ok given => load s given

end SearchQuery.Settings
