-- Files of variables. A line gives a variable as `name=value`; a value may stand in quotes,
-- where it may go on over lines, and may refer to other variables. A line that cannot be
-- read is passed over, and told by its number.
import SearchQuery.Entries
import SearchQuery.Text.Blank

namespace SearchQuery.EnvFile

/-! ## Pieces of a line -/

/-- What a piece of a line gives and the rest, or the rest at which reading failed. -/
abbrev Piece (α : Type) := Except (List Char) (α × List Char)

def isLineEnd (c : Char) : Bool := c == '\n' || c == '\r'

/-- A blank within a line. -/
def isInner (c : Char) : Bool := Text.isBlank c && !isLineEnd c

/-- The text after the word `export` and the blanks that follow it. -/
def skipExport (cs : List Char) : List Char :=
  let after := cs.drop 6
  if cs.take 6 == ['e', 'x', 'p', 'o', 'r', 't'] && after.head?.any isInner then
    after.dropWhile isInner
  else cs

/-- A name, bare or in quotes. A comment has none. -/
def readName (cs : List Char) : Piece (Option (List Char)) :=
  match cs with
  | '#' :: _ => .ok (none, cs)
  | '\'' :: rest =>
    let name := rest.takeWhile (· != '\'')
    match rest.drop name.length with
    | _ :: tail => if name.isEmpty then .error cs else .ok (some name, tail)
    | [] => .error cs
  | _ =>
    let name := cs.takeWhile fun c => c != '=' && c != '#' && !Text.isBlank c
    if name.isEmpty then .error cs else .ok (some name, cs.drop name.length)

/-- The text up to the quote that closes it, and the rest. A character after a backslash
closes nothing. -/
def untilQuote (mark : Char) : List Char → Option (List Char × List Char)
  | [] => none
  | '\\' :: c :: rest =>
    (untilQuote mark rest).map fun (body, tail) => ('\\' :: c :: body, tail)
  | c :: rest =>
    if c == mark then some ([], rest)
    else if c == '\\' then none
    else (untilQuote mark rest).map fun (body, tail) => (c :: body, tail)

/-- The character that a letter after a backslash stands for, in single quotes. -/
def singleEscape? : Char → Option Char
  | '\\' => some '\\'
  | '\'' => some '\''
  | _ => none

/-- The character that a letter after a backslash stands for, in double quotes. -/
def doubleEscape? : Char → Option Char
  | '\\' => some '\\'
  | '\'' => some '\''
  | '"' => some '"'
  | 'a' => some '\x07'
  | 'b' => some '\x08'
  | 'f' => some '\x0c'
  | 'n' => some '\n'
  | 'r' => some '\r'
  | 't' => some '\t'
  | 'v' => some '\x0b'
  | _ => none

/-- The text with the characters that letters after backslashes stand for. -/
def unescape (escape? : Char → Option Char) : List Char → List Char
  | [] => []
  | '\\' :: rest =>
    match rest with
    | [] => ['\\']
    | letter :: more =>
      match escape? letter with
      | some c => c :: unescape escape? more
      | none => '\\' :: unescape escape? (letter :: more)
  | c :: rest => c :: unescape escape? rest

/-- A bare value ends before a comment, which stands behind a blank. -/
def beforeComment : List Char → List Char
  | [] => []
  | c :: rest =>
    if Text.isBlank c && (rest.dropWhile Text.isBlank).head? == some '#' then []
    else c :: beforeComment rest

/-- A value behind its equals sign, bare or in quotes. -/
def readValue (cs : List Char) : Piece (List Char) :=
  let body := cs.dropWhile isInner
  let quotedBy (mark : Char) (escape? : Char → Option Char) (rest : List Char) :=
    match untilQuote mark rest with
    | some (text, tail) => .ok (unescape escape? text, tail)
    | none => .error body
  match body with
  | '\'' :: rest => quotedBy '\'' singleEscape? rest
  | '"' :: rest => quotedBy '"' doubleEscape? rest
  | _ =>
    let line := cs.takeWhile (!isLineEnd ·)
    .ok (Text.trimBy Text.isBlank (beforeComment line), cs.drop line.length)

/-- The text after an optional comment and the end of the line. -/
def readEnd (cs : List Char) : Piece Unit :=
  let next := cs.dropWhile isInner
  let after := if next.head? == some '#' then next.dropWhile (!isLineEnd ·) else cs
  match after.dropWhile isInner with
  | [] => .ok ((), [])
  | '\r' :: '\n' :: rest => .ok ((), rest)
  | c :: rest => if isLineEnd c then .ok ((), rest) else .error after

/-- One line: a name and its value, if it has them. -/
def readLine (cs : List Char) :
    Except (List Char) ((Option (List Char) × Option (List Char)) × List Char) := do
  let (name, tail) ← readName (skipExport cs)
  match tail.dropWhile isInner with
  | '=' :: rest =>
    let (value, tail) ← readValue rest
    let (_, tail) ← readEnd tail
    return ((name, some value), tail)
  | tail =>
    let (_, tail) ← readEnd tail
    return ((name, none), tail)

/-- What a line amounts to. -/
inductive Line where
  /-- A variable; it may be named without a value. -/
  | named (name : String) (value : Option (List Char))
  /-- A comment. -/
  | comment
  /-- Nothing that can be read; the number is that of the line at which reading began. -/
  | unreadable (number : Nat)
  deriving DecidableEq, Repr

/-- All lines in order, the first of which has the given number. -/
def readLines (number : Nat) : Nat → List Char → List Line
  | 0, _ => []
  | fuel + 1, cs =>
    match cs.dropWhile Text.isBlank with
    | [] => []
    | start =>
      let (line, tail) : Line × List Char := match readLine start with
        | .ok ((some name, value), tail) => (.named (String.ofList name) value, tail)
        | .ok ((none, _), tail) => (.comment, tail)
        | .error rest => (.unreadable number, (rest.dropWhile (!isLineEnd ·)).drop 1)
      let ended := (cs.take (cs.length - tail.length)).count '\n'
      line :: readLines (number + ended) fuel tail

/-! ## References -/

/-- The name in a reference after `$\x7b`, the value when there is no such variable, and the
rest. -/
def readReference? (cs : List Char) : Option (String × String × List Char) :=
  let name := cs.takeWhile fun c => c != '\x7d' && c != ':'
  match cs.drop name.length with
  | '\x7d' :: rest => some (String.ofList name, "", rest)
  | ':' :: '-' :: rest =>
    let default := rest.takeWhile (· != '\x7d')
    match rest.drop default.length with
    | _ :: tail => some (String.ofList name, String.ofList default, tail)
    | [] => none
  | _ => none

/-- A value with its references replaced by what `lookup` knows of them. -/
def resolve (lookup : String → Option String) : Nat → List Char → List Char
  | 0, cs => cs
  | _, [] => []
  | fuel + 1, c :: rest =>
    match c, rest with
    | '$', '\x7b' :: body =>
      match readReference? body with
      | some (name, default, tail) =>
        ((lookup name).getD default).toList ++ resolve lookup fuel tail
      | none => c :: resolve lookup fuel rest
    | _, _ => c :: resolve lookup fuel rest

/-- The value of a name: from the file so far, then from the surroundings. A variable that
is there without a value counts as empty. -/
def known (outer : List (String × String)) (done : List (String × Option String))
    (name : String) : Option String :=
  match done.lookup name with
  | some value => some (value.getD "")
  | none => outer.lookup name

/-- Resolves variables one after the other, each in sight of those before it. -/
def resolveAll (outer : List (String × String)) (done : List (String × Option String)) :
    List Line → List (String × Option String)
  | [] => done
  | .named name value :: rest =>
    let value := value.map fun cs =>
      String.ofList (resolve (known outer done) (cs.length + 1) cs)
    resolveAll outer (Entries.put name value done) rest
  | _ :: rest => resolveAll outer done rest

/-- The lines of a file. -/
def linesOf (text : String) : List Line :=
  let cs := text.toList
  readLines 1 (cs.length + 1) cs

/-- The variables of a file, in the order in which they come first. One may be named
without a value. -/
def read (outer : List (String × String)) (text : String) : List (String × Option String) :=
  resolveAll outer [] (linesOf text)

/-- What is told of the lines that cannot be read. -/
def warnings (text : String) : List String :=
  (linesOf text).filterMap fun
    | .unreadable number =>
      some ("python-dotenv could not parse statement starting at line " ++ toString number)
    | _ => none

end SearchQuery.EnvFile
