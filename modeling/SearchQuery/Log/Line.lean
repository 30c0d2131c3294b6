-- Log lines. What is logged is a message with values for its places, or an event with
-- details by name; both become entries, and a line shows an entry as JSON or in colours.
import SearchQuery.Json.Writer
import SearchQuery.Log.Event
import SearchQuery.Log.Template
import SearchQuery.Text.Split
import SearchQuery.Text.Utf8

namespace SearchQuery.Log

/-! ## Messages and entries -/

/-- Something to be logged. -/
inductive Message where
  /-- A text with places for values. -/
  | plain (logger : String) (level : Level) (template : String) (values : List Value)
  /-- An event with details by name. -/
  | structured (logger : String) (level : Level) (event : Value) (details : List (String × Value))

/-- The level of a message. -/
def Message.level : Message → Level
  | .plain _ level .. | .structured _ level .. => level

/-- The name that a logger goes by; the one without a name is the root of all. -/
def loggerName (name : String) : String := if name == "" then "root" else name

/-- A detail as it is shown: bytes are read as text. -/
def readable : Value → Value
  | .bytes b => .text (Text.decode b)
  | v => v

/-- What an entry says, by name. -/
abbrev Entry := List (String × Value)

/-- The entry of an event that has details. Who reports it, how grave it is, and when it
happened cannot be given as details. -/
def entry (time logger : String) (level : Level) (details : List (String × Value)) : Entry :=
  let always : Entry :=
    [("logger", .text (loggerName logger)), ("level", .text level.name), ("timestamp", .text time)]
  (Entries.update details always).map fun (name, v) => (name, readable v)

/-- The details that are for the log itself and not shown. -/
def innerDetails : List String := ["stack_info", "_record", "_from_structlog"]

/-- The detail that gives values for the places of an event. -/
def valuesName : String := "positional_args"

/-- The details of an event with the event among them, and with values in its places if the
details give some. -/
def detailsWith (event : Value) (details : List (String × Value)) :
    Except Fault (List (String × Value)) := do
  let all := match event with
    | .null => details
    | event => Entries.put "event" event details
  let shown ← match details.lookup valuesName with
    | none | some .null => pure all
    | some given =>
      let all := Entries.erase valuesName all
      if given.isTruthy then pure (Entries.put "event" (← fillEvent event given) all)
      else pure all
  return shown.filter fun (name, _) => !innerDetails.contains name

/-- A detail that has the name of an argument of the log itself cannot be given. -/
def checkDetails (level : Level) (details : List (String × Value)) : Except Fault Unit := do
  if let some (name, _) := details.find? fun (name, _) => name == "self" || name == "event" then
    throw (.repeatedArgument ("BoundLogger." ++ level.name) name)
  if Entries.has "method_name" details then
    throw (.repeatedArgument "BoundLogger._proxy_to_logger" "method_name")

/-- The entry of a message, none if its values do not fit its places. An event that cannot be
given as it is is a fault. -/
def Message.entry? (time : String) : Message → Except Fault (Option Entry)
  | .plain logger level template values =>
    .ok ((fill template values).toOption.map fun text =>
      entry time logger level [("event", .text text)])
  | .structured logger level event details => do
    return some (entry time logger level (← detailsWith event details))

/-! ## Colours -/

/-- The marks that change how a terminal writes. -/
inductive Ink where
  | plain | bright | dim | red | green | yellow | blue | magenta | cyan
  deriving DecidableEq, Repr

def Ink.mark : Ink → String
  | .plain => "\x1b[0m"
  | .bright => "\x1b[1m"
  | .dim => "\x1b[2m"
  | .red => "\x1b[31m"
  | .green => "\x1b[32m"
  | .yellow => "\x1b[33m"
  | .blue => "\x1b[34m"
  | .magenta => "\x1b[35m"
  | .cyan => "\x1b[36m"

/-- A text in ink. -/
def inked (inks : List Ink) (s : String) : String :=
  String.join (inks.map Ink.mark) ++ s ++ Ink.plain.mark

/-- The colour of a level. -/
def levelInk : Level → Ink
  | .debug | .info => .green
  | .warning => .yellow
  | .error | .critical => .red

/-- The text, filled up with blanks at its end. -/
def fillUp (width : Nat) (s : String) : String :=
  s ++ String.ofList (List.replicate (width - s.length) ' ')

/-- A detail in words: a text stands in quotes if it holds a blank, a quote or an equals
sign. -/
def shownDetail (v : Value) : String :=
  match v.text? with
  | some s =>
    let isDelicate (c : Char) := " \t=\r\n\"'".toList.contains c
    if s.toList.any isDelicate then Text.quoted s else s
  | none => v.shown

/-- A name between brackets. -/
def bracketedName (v : Value) : String :=
  "[" ++ Ink.plain.mark ++ inked [.bright, .blue] v.display ++ "]" ++ Ink.plain.mark

/-- The parts of an entry that have a column of their own, in order, and how they look. -/
def columns (level : Level) : List (String × (Value → String)) := [
  ("timestamp", fun v => inked [.dim] v.display),
  ("level", fun v => "[" ++ inked [levelInk level, .bright] (fillUp 9 v.display) ++ "]"),
  ("event", fun v => inked [.bright] (fillUp 30 v.display)),
  ("logger", bracketedName),
  ("logger_name", bracketedName)]

/-- The parts of an entry that stand below its line in colours. -/
def belowLine : List String := ["stack", "exception", "exc_info"]

/-- The first line of an entry in colours: the columns first, then the details in the order
of their names. -/
def colouredLine (level : Level) (e : Entry) : String :=
  let first := (columns level).filterMap fun (name, show?) => (e.lookup name).map show?
  let details := (e.filter fun (name, _) =>
    !Entries.has name (columns level) && !belowLine.contains name).mergeSort
    fun a b => !(b.1 < a.1)
  let shown := details.map fun (name, v) =>
    inked [.cyan] name ++ "=" ++ inked [.magenta] (shownDetail v)
  Text.dropEnd ' ' (" ".intercalate (first ++ shown))

/-- A part of an entry cannot be shown in colours if a number in it is too long to be written. -/
def isUnshown (part : String × Value) : Bool := !belowLine.contains part.1 && part.2.isOverlong

/-- A part of an entry that is not nothing. -/
def part? (e : Entry) (name : String) : Option Value :=
  match e.lookup name with
  | some .null => none
  | v => v

/-- A text below the line, on lines of its own; none if it is no text. -/
def below? : Option Value → Option String
  | none => some ""
  | some v => v.text?.map ("\n" ++ ·)

/-- The text between what stands below the line. -/
def separator : String := "\n\n" ++ String.ofList (List.replicate 79 '=') ++ "\n"

/-- An entry in colours, none if it has no form. What led to the event and what went wrong
stand below the line. -/
def coloured? (level : Level) (e : Entry) : Option String :=
  if e.any isUnshown then none
  else do
    let stack ← below? (part? e "stack")
    let wrong ← below? (part? e "exception")
    let isWrong := (part? e "exception").isSome || (part? e "exc_info").any Value.isTruthy
    let between := if (part? e "stack").isSome && isWrong then separator else ""
    return colouredLine level e ++ stack ++ between ++ wrong

/-! ## Lines -/

/-- How entries are shown. -/
inductive Format where
  | json | console
  deriving DecidableEq, Repr

/-- The format of a name. -/
def Format.ofName (name : String) : Format := if name == "console" then .console else .json

/-- The lines of a text that ends with a line. -/
def linesOf (s : String) : List String :=
  let pieces := (Text.splitAll '\n' s.toList).map String.ofList
  if pieces.getLast? == some "" then pieces.dropLast else pieces

/-- The text of an entry, none if it has no form. -/
def Format.text? (f : Format) (level : Level) (e : Entry) : Option String :=
  match f with
  | .json => (Json.write {} (.ofFields e)).toOption
  | .console => coloured? level e

/-- The lines of an entry. An entry that has no form is passed over. -/
def Format.lines (f : Format) (level : Level) (e : Entry) : List String :=
  match f.text? level e with
  | some text => linesOf (text ++ "\n")
  | none => []

/-- How a log is kept: which levels count, and how entries are shown. -/
structure Setup where
  threshold : Nat := 20
  format : Format := .json
  deriving DecidableEq, Repr

/-- The lines of an entry, none if its level does not count. -/
def Setup.entryLines (s : Setup) (level : Level) (e : Entry) : List String :=
  if level.weight < s.threshold then [] else s.format.lines level e

/-- The lines of a message. A message that does not count leads to no fault but for the names
of its details. -/
def Setup.linesOf (s : Setup) (time : String) (m : Message) : Except Fault (List String) := do
  if let .structured _ level _ details := m then checkDetails level details
  if m.level.weight < s.threshold then return []
  match ← m.entry? time with
  | some e => return s.entryLines m.level e
  | none => return []

/-- The lines of several messages. -/
def Setup.lines (s : Setup) (time : String) (messages : List Message) :
    Except Fault (List String) :=
  return (← messages.mapM (s.linesOf time)).flatten

/-- The lines of an event of the library. -/
def Setup.eventLines (s : Setup) (time : String) (e : Event) : List String :=
  s.entryLines e.level (entry time e.source e.level [("event", .text e.message)])

end SearchQuery.Log
