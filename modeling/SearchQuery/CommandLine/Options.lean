-- Options and arguments of a command line, for any set of options. An option may be cut
-- short as long as it stays unique; its value may follow, or stand behind `=`, or directly
-- behind a short name. What cannot be taken is either refused or left over.
import SearchQuery.Decimal.Read
import SearchQuery.Text.Quoted

namespace SearchQuery.CommandLine

/-- An option: what it is for, and its names. -/
structure Rule (ω : Type) where
  key : ω
  names : List String
  takesValue : Bool := false

/-- What the arguments that are no options are for. -/
inductive Operand where
  /-- A single argument. -/
  | single
  /-- An argument and everything behind it, options too. -/
  | everything
  deriving DecidableEq, Repr

/-- The options of a command and its argument, if it has one. -/
structure Grammar (ω : Type) where
  rules : List (Rule ω)
  operand : Option Operand := none

/-- Why a command line is refused. -/
inductive Refusal where
  | ambiguous (given : String) (names : List String)
  | valueExpected (argument : String)
  | valueIgnored (argument value : String)
  | notInteger (argument value : String)
  | notAChoice (argument value : String) (choices : List String)
  | missing (argument : String)
  | unrecognized (arguments : List String)
  deriving DecidableEq, Repr

/-- The words for a refusal. -/
def Refusal.message : Refusal → String
  | .ambiguous given names =>
    "ambiguous option: " ++ given ++ " could match " ++ ", ".intercalate names
  | .valueExpected argument => "argument " ++ argument ++ ": expected one argument"
  | .valueIgnored argument value =>
    "argument " ++ argument ++ ": ignored explicit argument " ++ Text.quoted value
  | .notInteger argument value =>
    "argument " ++ argument ++ ": invalid int value: " ++ Text.quoted value
  | .notAChoice argument value choices =>
    "argument " ++ argument ++ ": invalid choice: " ++ Text.quoted value ++ " (choose from " ++
      ", ".intercalate (choices.map Text.quoted) ++ ")"
  | .missing argument => "the following arguments are required: " ++ argument
  | .unrecognized arguments => "unrecognized arguments: " ++ " ".intercalate arguments

/-- The name of an option in messages: all its names. -/
def Rule.title {ω : Type} (r : Rule ω) : String := "/".intercalate r.names

/-! ## What an argument is -/

/-- An argument that names an option. -/
structure Named (ω : Type) where
  rule : Rule ω
  /-- The full name. -/
  name : String
  /-- The value behind `=`, or behind a short name. -/
  value : Option String := none

/-- What an argument is. -/
inductive Word (ω : Type) where
  | argument
  | option (n : Named ω)
  /-- It looks like an option but is none. -/
  | stranger
  /-- The mark behind which there are arguments only. -/
  | divider

variable {ω : Type}

namespace Grammar

/-- All names with their options, in order. -/
def names (g : Grammar ω) : List (String × Rule ω) :=
  g.rules.flatMap fun r => r.names.map fun name => (name, r)

/-- The option of a name. -/
def rule? (g : Grammar ω) (name : String) : Option (Rule ω) := g.names.lookup name

/-- The text before the first `=`, and the text behind it. -/
def splitValue (s : String) : String × Option String :=
  let front := s.toList.takeWhile (· != '=')
  match s.toList.drop front.length with
  | [] => (s, none)
  | _ :: value => (String.ofList front, some (String.ofList value))

/-- The options that an argument may stand for, when it is no full name. -/
def candidates (g : Grammar ω) (s : String) : List (Named ω) :=
  if (s.toList.drop 1).head? == some '-' then
    let (front, value) := splitValue s
    g.names.filterMap fun (name, rule) =>
      if front.isPrefixOf name then some { rule, name, value } else none
  else
    let short := String.ofList (s.toList.take 2)
    g.names.filterMap fun (name, rule) =>
      if name == short then some { rule, name, value := some (String.ofList (s.toList.drop 2)) }
      else if s.isPrefixOf name then some { rule, name }
      else none

end Grammar

/-- A minus and a decimal number; the end of a line may follow. -/
def isNegativeNumber (s : String) : Bool :=
  match s.toList with
  | '-' :: cs =>
    let cs := if cs.getLast? == some '\n' then cs.dropLast else cs
    let isNumeral (c : Char) := (Text.digit? c).isSome
    match cs.dropWhile isNumeral with
    | [] => !cs.isEmpty
    | '.' :: fraction => !fraction.isEmpty && fraction.all isNumeral
    | _ => false
  | _ => false

/-- What an argument is on its own. -/
def Grammar.wordOf (g : Grammar ω) (s : String) : Except Refusal (Word ω) :=
  if !"-".isPrefixOf s || s == "-" then .ok .argument
  else match g.rule? s with
    | some rule => .ok (.option { rule, name := s })
    | none =>
      let (front, value) := Grammar.splitValue s
      match value, g.rule? front with
      | some v, some rule => .ok (.option { rule, name := front, value := some v })
      | _, _ =>
        match g.candidates s with
        | [n] => .ok (.option n)
        | [] =>
          if isNegativeNumber s || s.toList.contains ' ' then .ok .argument else .ok .stranger
        | many => .error (.ambiguous s (many.map (·.name)))

/-- What each argument of a line is. -/
def Grammar.words (g : Grammar ω) : List String → Except Refusal (List (String × Word ω))
  | [] => .ok []
  | s :: rest =>
    if s == "--" then .ok ((s, .divider) :: rest.map fun s => (s, .argument))
    else do
      let word ← g.wordOf s
      return (s, word) :: (← g.words rest)

/-! ## Taking a line apart -/

/-- One thing taken from a line. -/
inductive Taken (ω : Type) where
  | option (key : ω) (value : Option String)
  | operand (arguments : List String)

/-- A line taken apart: what was taken in order, then why it went no further if so, and what
is left over. -/
structure Parsed (ω : Type) where
  taken : List (Taken ω) := []
  refusal : Option Refusal := none
  leftOver : List String := []

def Parsed.refused (refusal : Refusal) : Parsed ω := { refusal := some refusal }

/-- Puts something that is taken first in front. -/
def Parsed.after (taken : List (Taken ω)) (p : Parsed ω) : Parsed ω :=
  { p with taken := taken ++ p.taken }

/-- Puts arguments that are left over in front. -/
def Parsed.beside (leftOver : List String) (p : Parsed ω) : Parsed ω :=
  { p with leftOver := leftOver ++ p.leftOver }

def Word.isOption : Word ω → Bool
  | .option _ | .stranger => true
  | _ => false

def Word.isArgument : Word ω → Bool
  | .argument => true
  | _ => false

def Word.isDivider : Word ω → Bool
  | .divider => true
  | _ => false

/-- The arguments at the front that an operand takes, none if it finds none. A divider may
stand in front of a single argument and behind it. -/
def Operand.take (o : Operand) (line : List (String × Word ω)) : List (String × Word ω) :=
  let front := line.takeWhile (·.2.isDivider)
  match line.drop front.length with
  | first :: rest =>
    if !first.2.isArgument then []
    else match o with
      | .single => front ++ first :: rest.takeWhile (·.2.isDivider)
      | .everything => line
  | [] => []

/-- The values of an operand. A divider is no value of a single argument. -/
def Operand.values (o : Operand) (taken : List (String × Word ω)) : List String :=
  match o with
  | .single => (taken.map (·.1)).erase "--"
  | .everything => taken.map (·.1)

/-- What an option takes from its own argument and the line behind it. -/
structure Grip (ω : Type) where
  taken : List (Taken ω) := []
  /-- The number of arguments used behind the option. -/
  used : Nat := 0

/-- A value that is given with an option; the divider is none. -/
def givenValue (v : String) : Option String := if v == "--" then none else some v

/-- The options of an argument with their values. Behind a short name that takes no value
further short names may stand; all of them have to be known. -/
def Grammar.grip (g : Grammar ω) (line : List (String × Word ω)) : Nat → Named ω →
    Except Refusal (Grip ω)
  | 0, n => .error (.valueExpected n.rule.title)
  | fuel + 1, n =>
    match n.value, n.rule.takesValue with
    | some v, true => .ok { taken := [.option n.rule.key (givenValue v)] }
    | none, false => .ok { taken := [.option n.rule.key none] }
    | none, true =>
      match line with
      | (v, .argument) :: _ => .ok { taken := [.option n.rule.key (some v)], used := 1 }
      | _ => .error (.valueExpected n.rule.title)
    | some v, false =>
      let next := String.ofList ('-' :: v.toList.take 1)
      match v.toList, g.rule? next with
      | _ :: more, some rule =>
        if (n.name.toList.drop 1).head? == some '-' then .error (.valueIgnored n.rule.title v)
        else do
          let value := if more.isEmpty then none else some (String.ofList more)
          let grip ← g.grip line fuel { rule, name := next, value }
          return { grip with taken := .option n.rule.key none :: grip.taken }
      | _, _ => .error (.valueIgnored n.rule.title v)

/-- Takes a line apart. `operand` is what is still to come besides options. -/
def Grammar.takeApart (g : Grammar ω) : Nat → Option Operand → List (String × Word ω) → Parsed ω
  | 0, _, line => { leftOver := line.map (·.1) }
  | fuel + 1, operand, line =>
    let front := line.takeWhile fun w => !w.2.isOption
    let behind := line.drop front.length
    let found : List String × Nat := match operand with
      | some o =>
        let taken := if front.isEmpty then [] else o.take line
        (o.values taken, taken.length)
      | none => ([], 0)
    if found.2 != 0 then
      (g.takeApart fuel none (line.drop found.2)).after [.operand found.1]
    else
      let front := front.map (·.1)
      match behind with
      | [] => { leftOver := front }
      | (_, .option n) :: tail =>
        match g.grip tail (n.value.getD "").length.succ n with
        | .error refusal => .refused refusal
        | .ok grip =>
          ((g.takeApart fuel operand (tail.drop grip.used)).after grip.taken).beside front
      | (s, _) :: tail => (g.takeApart fuel operand tail).beside (front ++ [s])

/-- A command line taken apart. -/
def Grammar.parse (g : Grammar ω) (line : List String) : Parsed ω :=
  match g.words line with
  | .error refusal => .refused refusal
  | .ok words => g.takeApart (2 * line.length + 1) g.operand words

end SearchQuery.CommandLine
