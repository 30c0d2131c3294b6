-- The command line of the program: which commands there are, what they take, and what is
-- said when a line cannot be taken.
import SearchQuery.CommandLine.Options
import SearchQuery.Value.Convert

namespace SearchQuery.CommandLine

/-! ## What a command line asks for -/

/-- What a search is asked for. -/
structure SearchOptions where
  index : Option String := none
  condition : Option String := none
  orderBy : Option String := none
  limit : Value := .null
  offset : Value := .null
  fuzzy : Bool := false
  count : Bool := false

/-- What compiling is asked for. -/
structure CompileOptions where
  condition : String
  /-- Groups of alternatives are asked for, whatever the settings say. -/
  groupFields : Bool := false
  deriving DecidableEq, Repr

/-- A command. -/
inductive Command where
  | compile (o : CompileOptions)
  | search (o : SearchOptions)

/-- A command line that was understood. -/
structure Order where
  config : Option String := none
  logLevel : Option String := none
  command : Command

/-- A run that ends before any command: its status and what is printed. -/
structure Exit where
  status : Nat
  out : String := ""
  err : String := ""
  deriving DecidableEq, Repr

/-! ## Texts -/

/-- The name of the program. -/
def program : String := "searchrecord"

def version : String := "0.1.0"

def usage : String :=
  "usage: searchrecord [-h] [--config CONFIG]\n" ++
  "                    [--log-level \x7bdebug,info,warning,error\x7d] [--version]\n" ++
  "                    \x7bcompile,search\x7d ...\n"

def help : String := usage ++
  "\nsearchrecord — ActiveRecord-style queries over full-text search engines\n" ++
  "\npositional arguments:\n" ++
  "  \x7bcompile,search\x7d\n" ++
  "    compile             Print the query string for a JSON condition\n" ++
  "    search              Run a query against the configured adapter\n" ++
  "\noptions:\n" ++
  "  -h, --help            show this help message and exit\n" ++
  "  --config CONFIG, -c CONFIG\n" ++
  "                        Path to YAML configuration file\n" ++
  "  --log-level \x7bdebug,info,warning,error\x7d\n" ++
  "                        Log level (overrides config)\n" ++
  "  --version             show program's version number and exit\n"

def compileUsage : String :=
  "usage: searchrecord compile [-h] [--group-hash-fields] condition\n"

def compileHelp : String := compileUsage ++
  "\npositional arguments:\n" ++
  "  condition            JSON condition, e.g. '\x7b\"city\": \"NY\"\x7d'\n" ++
  "\noptions:\n" ++
  "  -h, --help           show this help message and exit\n" ++
  "  --group-hash-fields  AND all hash entries, OR-grouping multi-valued ones\n" ++
  "                       (overrides config)\n"

def searchUsage : String :=
  "usage: searchrecord search [-h] [--index INDEX] [--where WHERE]\n" ++
  "                           [--order-by ORDER_BY] [--limit LIMIT]\n" ++
  "                           [--offset OFFSET] [--fuzzy] [--count]\n"

def searchHelp : String := searchUsage ++
  "\noptions:\n" ++
  "  -h, --help            show this help message and exit\n" ++
  "  --index INDEX, -i INDEX\n" ++
  "                        Index/collection to search\n" ++
  "  --where WHERE, -w WHERE\n" ++
  "                        JSON condition\n" ++
  "  --order-by ORDER_BY   Sort columns, e.g. \"year DESC, title\"\n" ++
  "  --limit LIMIT, -l LIMIT\n" ++
  "                        Maximum number of documents\n" ++
  "  --offset OFFSET       Number of documents to skip\n" ++
  "  --fuzzy               Match any term instead of all terms\n" ++
  "  --count               Print the number of matches only\n"

/-- The exit of a line that is refused. -/
def Refusal.exit (usage speaker : String) (r : Refusal) : Exit :=
  { status := 2, err := usage ++ speaker ++ ": error: " ++ r.message ++ "\n" }

/-! ## Options of the commands -/

inductive CompileKey where
  | help | groupFields
  deriving DecidableEq, Repr

def compileGrammar : Grammar CompileKey where
  rules := [⟨.help, ["-h", "--help"], false⟩, ⟨.groupFields, ["--group-hash-fields"], false⟩]
  operand := some .single

inductive SearchKey where
  | help | index | condition | orderBy | limit | offset | fuzzy | count
  deriving DecidableEq, Repr

def searchGrammar : Grammar SearchKey where
  rules := [
    ⟨.help, ["-h", "--help"], false⟩, ⟨.index, ["--index", "-i"], true⟩,
    ⟨.condition, ["--where", "-w"], true⟩, ⟨.orderBy, ["--order-by"], true⟩,
    ⟨.limit, ["--limit", "-l"], true⟩, ⟨.offset, ["--offset"], true⟩,
    ⟨.fuzzy, ["--fuzzy"], false⟩, ⟨.count, ["--count"], false⟩]

inductive MainKey where
  | help | config | logLevel | version
  deriving DecidableEq, Repr

def mainGrammar : Grammar MainKey where
  rules := [
    ⟨.help, ["-h", "--help"], false⟩, ⟨.config, ["--config", "-c"], true⟩,
    ⟨.logLevel, ["--log-level"], true⟩, ⟨.version, ["--version"], false⟩]
  operand := some .everything

/-- The levels that can be asked for. -/
def logLevels : List String := ["debug", "info", "warning", "error"]

def commandNames : List String := ["compile", "search"]

/-! ## Reading -/

/-- One choice of several. -/
def choice (argument : String) (choices : List String) (s : String) : Except Refusal String :=
  if choices.contains s then .ok s else .error (.notAChoice argument s choices)

/-- A whole number. An option with no value at all gives an empty list. -/
def integer (argument : String) : Option String → Except Refusal Value
  | none => .ok (.list [])
  | some s =>
    match (Value.text s).toInt with
    | .ok n => .ok (.int n)
    | .error _ => .error (.notInteger argument s)

/-- A command and the arguments that are left over. -/
abbrev Read := Except Exit (Command × List String)

/-- The command to compile. -/
def readCompile (line : List String) : Read := do
  let parsed := compileGrammar.parse line
  let refuse (r : Refusal) : Exit := r.exit compileUsage (program ++ " compile")
  let (condition, groupFields) ← parsed.taken.foldlM (fun (condition, groupFields) t =>
    match t with
    | .option .help _ => .error { status := 0, out := compileHelp }
    | .option .groupFields _ => .ok (condition, true)
    | .operand arguments => Except.ok (arguments.head?, groupFields))
    ((none, false) : Option String × Bool)
  match parsed.refusal, condition with
  | some r, _ => .error (refuse r)
  | none, none => .error (refuse (.missing "condition"))
  | none, some condition => return (.compile { condition, groupFields }, parsed.leftOver)

/-- One option of a search. -/
def SearchOptions.take (o : SearchOptions) : SearchKey → Option String →
    Except Refusal SearchOptions
  | .help, _ => .ok o
  | .index, v => .ok { o with index := v }
  | .condition, v => .ok { o with condition := v }
  | .orderBy, v => .ok { o with orderBy := v }
  | .limit, v => do return { o with limit := ← integer "--limit/-l" v }
  | .offset, v => do return { o with offset := ← integer "--offset" v }
  | .fuzzy, _ => .ok { o with fuzzy := true }
  | .count, _ => .ok { o with count := true }

/-- The command to search. -/
def readSearch (line : List String) : Read := do
  let parsed := searchGrammar.parse line
  let refuse (r : Refusal) : Exit := r.exit searchUsage (program ++ " search")
  let options ← parsed.taken.foldlM (fun o t =>
    match t with
    | .option .help _ => .error { status := 0, out := searchHelp }
    | .option key v => (o.take key v).mapError refuse
    | .operand _ => Except.ok o) ({} : SearchOptions)
  match parsed.refusal with
  | some r => .error (refuse r)
  | none => return (.search options, parsed.leftOver)

/-- The command of a name with its own arguments. -/
def readCommand (name : String) (line : List String) : Read :=
  if name == "compile" then readCompile line else readSearch line

/-- What was read of a line so far. -/
structure Reading where
  config : Option String := none
  logLevel : Option String := none
  command : Option (Command × List String) := none

/-- Takes one thing from a line. -/
def Reading.take (r : Reading) : Taken MainKey → Except Exit Reading
  | .option .help _ => .error { status := 0, out := help }
  | .option .version _ => .error { status := 0, out := program ++ " " ++ version ++ "\n" }
  | .option .config v => .ok { r with config := v }
  | .option .logLevel none => .ok { r with logLevel := none }
  | .option .logLevel (some v) => do
    let level ← (choice "--log-level" logLevels v).mapError (·.exit usage program)
    return { r with logLevel := some level }
  | .operand arguments => do
    let name ← (choice "command" commandNames (arguments.headD "")).mapError (·.exit usage program)
    return { r with command := some (← readCommand name (arguments.drop 1)) }

/-- What a command line asks for. -/
def read (line : List String) : Except Exit Order := do
  let parsed := mainGrammar.parse line
  let reading ← parsed.taken.foldlM Reading.take {}
  let refuse (r : Refusal) : Exit := r.exit usage program
  match parsed.refusal, reading.command with
  | some r, _ => .error (refuse r)
  | none, none => .error (refuse (.missing "command"))
  | none, some (command, spare) =>
    match parsed.leftOver ++ spare with
    | [] => return { config := reading.config, logLevel := reading.logLevel, command }
    | leftOver => .error (refuse (.unrecognized leftOver))

end SearchQuery.CommandLine
