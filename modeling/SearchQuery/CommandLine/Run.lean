-- A whole run of the program: reads the command line and the settings, carries the command
-- out, and tells what is printed, what is logged, and how the run ends.
import SearchQuery.CommandLine.Arguments
import SearchQuery.Json.Writer
import SearchQuery.Log.Threshold
import SearchQuery.Session
import SearchQuery.Settings.Load

namespace SearchQuery.CommandLine

/-! ## Commands -/

/-- The query text of a condition in JSON. -/
def compileText (room : Nat) (o : CompileOptions) (groupFields : Bool) :
    Except Fault String := do
  let node ← Condition.read (← Json.read room o.condition)
  node.compile (.ofGrouping (o.groupFields || groupFields))

/-- The type of the entries of an index. -/
def indexType (name : String) : RecordType := { name := "IndexRecord", index := name }

/-- A text that is given and not empty. -/
def filled? (s : Option String) : Option String := s.filter (· != "")

/-- Fills the query of a session in. -/
def fillQuery (room : Nat) (o : SearchOptions) : Run Unit := do
  if let some text := filled? o.condition then
    Session.call (.condition (← Json.read room text))
  Session.call (.orderBy (.ofText? o.orderBy))
  Session.call (.limit (o.limit))
  Session.call (.offset (o.offset))
  Session.call (.fuzzy (.bool o.fuzzy))
  Session.call (.asArray (.bool true))

/-- What was found as a value. -/
def foundValue : Found → Value
  | .row fields => .ofFields fields
  | .record r => .ofFields r.fields

/-- Everything that was found as a value. -/
def findingsValue : Findings → Value
  | .list found => .list (found.map foundValue)
  | .keyed found => .map (found.map fun (key, f) => (key, foundValue f))

/-- Rows are printed over lines, with two blanks for each level. -/
def rowLayout : Json.Layout := { indent := some 2, ascii := false, other := Value.display }

/-- The text if standard output takes it. -/
def printable (around : Surroundings) (text : String) : Except Fault String :=
  match around.refusal? text with
  | none => .ok text
  | some words => .error (.unprintable words)

/-- Asks the engine and gives the text to print. -/
def answerText (room : Nat) (o : SearchOptions) : Run String := do
  fillQuery room o
  if o.count then return toString (← Session.count)
  else Json.write rowLayout (findingsValue (← Session.all))

/-- What a search has to show. -/
structure Shown where
  text : String
  query : Option String
  /-- The number of events that came before it was printed. -/
  seen : Nat

/-- The session of a search. -/
def sessionFor (o : SearchOptions) (s : Settings) (registry : Registry) : Session :=
  { connection := { settings := s.search, registry },
    mode := .ofGrouping s.groupFields,
    type := (filled? o.index).map indexType }

/-- Searches and prints, and closes the connection whatever comes of it. -/
def search (around : Surroundings) (o : SearchOptions) (s : Settings) :
    Act (Except Fault Shown) := do
  let registry ← Registry.standard
  let (outcome, session) ← (answerText around.room o).run.run (sessionFor o s registry)
  let seen := (← get).events.length
  let _ ← session.connection.close
  return (outcome >>= printable around).map fun text => { text, query := session.query, seen }

/-! ## Runs -/

/-- How a run ends. -/
inductive Ending where
  /-- The command came to an end, with this code. -/
  | done (code : Nat)
  /-- The run ended before any command. -/
  | exited (status : Nat)
  /-- The settings cannot be used. -/
  | failed (fault : Fault)
  deriving DecidableEq, Repr

/-- What a run leaves behind: how it ended, and the lines of both outputs. -/
structure Report where
  ending : Ending
  out : String := ""
  err : List String := []

/-- The code for a command that failed: malformed JSON has one of its own. -/
def codeOf : Fault → Nat
  | .malformedJson .. => 2
  | _ => 1

/-- The words for a command that failed. -/
def complaint : Fault → String
  | .malformedJson problem line column place =>
    "Error: Invalid JSON condition: " ++ (Fault.malformedJson problem line column place).message
  | fault => "Error: " ++ fault.message

/-- The report of a command that failed. -/
def failure (logged : List String) (fault : Fault) : Report :=
  { ending := .done (codeOf fault), err := logged ++ Log.linesOf (complaint fault ++ "\n") }

/-- The lines of events in the log. -/
def logLines (setup : Log.Setup) (time : String) (events : List Event) : List String :=
  events.flatMap (setup.eventLines time)

/-- A query text in quotes; without any the word for none. -/
def shownQuery : Option String → String
  | some text => Text.quoted text
  | none => "None"

/-- Carries a command out. -/
def carryOut (around : Surroundings) (setup : Log.Setup) (time : String) (s : Settings) :
    Command → Act Report
  | .compile o => return match compileText around.room o s.groupFields >>= printable around with
    | .ok text => { ending := .done 0, out := text ++ "\n" }
    | .error fault => failure [] fault
  | .search o => do
    let earlier := (← get).events.length
    let outcome ← search around o s
    let events := (← get).events
    let log (events : List Event) := logLines setup time events
    return match outcome with
    | .ok shown =>
      { ending := .done 0, out := shown.text ++ "\n",
        err := log ((events.take shown.seen).drop earlier) ++
          ["query: " ++ shownQuery shown.query] ++ log (events.drop shown.seen) }
    | .error fault => failure (log (events.drop earlier)) fault

/-- The settings with the level that the command line asks for. -/
def Order.adjust (o : Order) (s : Settings) : Settings :=
  match o.logLevel with
  | some level => { s with log := { s.log with level } }
  | none => s

/-- The settings of an order, or the path of its file if there is none. -/
def settingsFor (around : Surroundings) (o : Order) : Except String Settings.Loaded :=
  match filled? o.config with
  | none => .ok (Settings.load around [])
  | some path =>
    if around.at? path = .missing then .error (Path.tidy path)
    else .ok (Settings.loadFile around path)

/-- Carries a command out under settings, unless they cannot be used. -/
def carryOutUnder (around : Surroundings) (time : String) (o : Order)
    (settings : Except Fault Settings) : Act Report :=
  let prepared := do
    let settings := o.adjust (← settings)
    return (← Log.Setup.ofSettings settings.log, settings)
  match prepared with
  | .error fault => return { ending := .failed fault }
  | .ok (setup, settings) => carryOut around setup time settings o.command

/-- Carries an order out. What is told while settings are loaded comes first. -/
def obey (around : Surroundings) (time : String) (o : Order) : Act Report :=
  match settingsFor around o with
  | .error path =>
    return { ending := .done 1,
             err := Log.linesOf ("Error: Config file not found: " ++ path ++ "\n") }
  | .ok loaded => do
    let report ← carryOutUnder around time o loaded.settings
    return { report with err := loaded.told ++ report.err }

/-- A whole run on a command line. -/
def run (around : Surroundings) (time : String) (line : List String) : Act Report :=
  match read line with
  | .error exit =>
    return { ending := .exited exit.status, out := exit.out, err := Log.linesOf exit.err }
  | .ok order => obey around time order

end SearchQuery.CommandLine
