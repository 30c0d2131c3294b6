-- JSON texts as values. Besides the standard, `NaN` and both infinities are numbers. A text
-- that is no JSON is told by what was expected and where. Lists and maps may lie inside each
-- other only so many times.
import SearchQuery.Decimal.Read
import SearchQuery.Entries
import SearchQuery.Fault
import SearchQuery.Value.Equality

namespace SearchQuery.Json

/-- Why reading stopped. The place is given by the number of characters that are left. -/
inductive Stop where
  | malformed (problem : JsonProblem) (left : Nat)
  | tooManyDigits (digits : Nat)
  | tooDeep (inside : Nesting)
  deriving DecidableEq, Repr

/-- Blanks, tabs and ends of lines. -/
def isBlank (c : Char) : Bool := c == ' ' || c == '\t' || c == '\n' || c == '\r'

def skip (cs : List Char) : List Char := cs.dropWhile isBlank

/-! ## Texts -/

/-- The number of four hexadecimal digits. -/
def hexUnit? (cs : List Char) : Option Nat :=
  (cs.mapM Text.hexDigit?).map (Text.ofDigits 16)

/-- The character of a pair of units. -/
def pairChar (high low : Nat) : Char :=
  Char.ofNat (0x10000 + (high - 0xD800) * 0x400 + (low - 0xDC00))

/-- The character that a letter after a backslash stands for. -/
def escape? : Char → Option Char
  | '"' => some '"'
  | '\\' => some '\\'
  | '/' => some '/'
  | 'b' => some '\x08'
  | 'f' => some '\x0c'
  | 'n' => some '\n'
  | 'r' => some '\r'
  | 't' => some '\t'
  | _ => none

/-- The digits after `\u`, with a second unit if both make a pair: the character and the
number of characters read. -/
def readUnit (cs : List Char) : Except Stop (Char × Nat) :=
  let bad (left : Nat) : Except Stop (Char × Nat) :=
    .error (.malformed .badUnicodeEscape (left + 1))
  if cs.length < 5 then bad cs.length
  else match hexUnit? (cs.take 4) with
    | none => bad cs.length
    | some high =>
      let after := cs.drop 4
      if Text.isHighHalf high && 7 ≤ after.length && after.take 2 == ['\\', 'u'] then
        match hexUnit? ((after.drop 2).take 4) with
        | none => bad (after.length - 2)
        | some low =>
          if Text.isLowHalf low then .ok (pairChar high low, 10) else .ok (Text.ofCode high, 4)
      else .ok (Text.ofCode high, 4)

/-- The characters of a text after its opening quote, and the rest. `opening` counts the
characters from that quote on, `done` holds those read so far, the last one first. -/
def readText (opening : Nat) (done : List Char) : List Char →
    Except Stop (List Char × List Char)
  | [] => .error (.malformed .unterminatedText opening)
  | c :: rest =>
    if c == '"' then .ok (done.reverse, rest)
    else if c == '\\' then
      match rest with
      | [] => .error (.malformed .unterminatedText opening)
      | 'u' :: digits =>
        match readUnit digits with
        | .error stop => .error stop
        | .ok (char, used) => readText opening (char :: done) (digits.drop used)
      | letter :: more =>
        match escape? letter with
        | some char => readText opening (char :: done) more
        | none => .error (.malformed .badEscape (more.length + 2))
    else if c.toNat < 32 then .error (.malformed .controlCharacter (rest.length + 1))
    else readText opening (c :: done) rest
termination_by cs => cs.length
decreasing_by all_goals simp [List.length_drop] <;> omega

/-! ## Numbers -/

/-- The whole part at the front: a single zero, or digits that start with none. -/
def spanWhole : List Char → List Char × List Char
  | '0' :: rest => (['0'], rest)
  | cs => Decimal.spanDigits cs

/-- A point and digits at the front. -/
def spanFraction (cs : List Char) : List Char × List Char :=
  match cs with
  | '.' :: rest =>
    let (digits, tail) := Decimal.spanDigits rest
    if digits.isEmpty then ([], cs) else ('.' :: digits, tail)
  | _ => ([], cs)

/-- An exponent at the front. -/
def spanExponent (cs : List Char) : List Char × List Char :=
  match cs with
  | e :: rest =>
    if e == 'e' || e == 'E' then
      let (sign, body) := match rest with
        | '+' :: more => (['+'], more)
        | '-' :: more => (['-'], more)
        | _ => ([], rest)
      let (digits, tail) := Decimal.spanDigits body
      if digits.isEmpty then ([], cs) else (e :: sign ++ digits, tail)
    else ([], cs)
  | [] => ([], cs)

/-- A number at the front. -/
def readNumber (cs : List Char) : Except Stop (Value × List Char) :=
  let (sign, body) := match cs with
    | '-' :: rest => (['-'], rest)
    | _ => ([], cs)
  let (whole, afterWhole) := spanWhole body
  let (fraction, afterFraction) := spanFraction afterWhole
  let (exponent, rest) := spanExponent afterFraction
  if whole.isEmpty then .error (.malformed .valueExpected cs.length)
  else if fraction.isEmpty && exponent.isEmpty then
    if Decimal.maxDigits < whole.length then .error (.tooManyDigits whole.length)
    else
      let n : Int := Decimal.digitsValue whole
      .ok (.int (if sign.isEmpty then n else -n), rest)
  else
    .ok (.float ((Decimal.readFloat? (sign ++ whole ++ fraction ++ exponent)).getD 0), rest)

/-! ## Values -/

/-- The words that stand for values. -/
def words : List (List Char × Value) := [
  ("null".toList, .null), ("true".toList, .bool true), ("false".toList, .bool false),
  ("NaN".toList, .float (0.0 / 0.0)), ("Infinity".toList, .float (1.0 / 0.0)),
  ("-Infinity".toList, .float (-1.0 / 0.0))]

/-- A word at the front that stands for a value. -/
def readWord? (cs : List Char) : Option (Value × List Char) :=
  words.findSome? fun (word, value) =>
    if word.isPrefixOf cs then some (value, cs.drop word.length) else none

mutual
/-- A value at the front, which may hold others `room` times inside each other. The first
argument bounds the depth of the calls. -/
def readValue : Nat → Nat → List Char → Except Stop (Value × List Char)
  | 0, _, cs => .error (.malformed .valueExpected cs.length)
  | fuel + 1, room, cs =>
    match cs with
    | '"' :: rest => do
      let (text, tail) ← readText cs.length [] rest
      .ok (.text (String.ofList text), tail)
    | '\x7b' :: rest =>
      match room, skip rest with
      | 0, _ => .error (.tooDeep .map)
      | _, '\x7d' :: tail => .ok (.map [], tail)
      | room + 1, body => readEntries fuel room [] body
    | '[' :: rest =>
      match room, skip rest with
      | 0, _ => .error (.tooDeep .list)
      | _, ']' :: tail => .ok (.list [], tail)
      | room + 1, body => readItems fuel room [] body
    | _ =>
      match readWord? cs with
      | some found => .ok found
      | none => readNumber cs
/-- The items of a list after its bracket; `done` holds those read so far, the last first. -/
def readItems : Nat → Nat → List Value → List Char → Except Stop (Value × List Char)
  | 0, _, _, cs => .error (.malformed .valueExpected cs.length)
  | fuel + 1, room, done, cs => do
    let (value, tail) ← readValue fuel room cs
    match skip tail with
    | ']' :: rest => .ok (.list (value :: done).reverse, rest)
    | ',' :: rest => readItems fuel room (value :: done) (skip rest)
    | rest => .error (.malformed .commaExpected rest.length)
/-- The entries of a map after its brace. -/
def readEntries : Nat → Nat → List (Value × Value) → List Char →
    Except Stop (Value × List Char)
  | 0, _, _, cs => .error (.malformed .keyExpected cs.length)
  | fuel + 1, room, done, cs =>
    match cs with
    | '"' :: rest => do
      let (key, afterKey) ← readText cs.length [] rest
      match skip afterKey with
      | ':' :: body =>
        let (value, tail) ← readValue fuel room (skip body)
        let done := Entries.put (.text (String.ofList key)) value done
        match skip tail with
        | '\x7d' :: rest => .ok (.map done, rest)
        | ',' :: rest => readEntries fuel room done (skip rest)
        | rest => .error (.malformed .commaExpected rest.length)
      | other => .error (.malformed .colonExpected other.length)
    | _ => .error (.malformed .keyExpected cs.length)
end

/-- The fault for a problem at the place that leaves `left` characters of a text. -/
def faultAt (cs : List Char) (problem : JsonProblem) (left : Nat) : Fault :=
  let before := cs.take (cs.length - left)
  let line := before.count '\n' + 1
  let column := (before.reverse.takeWhile (· != '\n')).length + 1
  .malformedJson problem line column before.length

/-- The value of a whole JSON text, in which lists and maps may lie `room` times inside each
other. -/
def read (room : Nat) (s : String) : Except Fault Value :=
  let cs := s.toList
  if cs.head? == some '\uFEFF' then .error (faultAt cs .byteOrderMark cs.length)
  else
    match readValue (2 * cs.length + 2) room (skip cs) with
    | .error (.malformed problem left) => .error (faultAt cs problem left)
    | .error (.tooManyDigits n) => .error (.tooManyDigits (some n))
    | .error (.tooDeep inside) => .error (.tooDeep inside)
    | .ok (value, tail) =>
      match skip tail with
      | [] => .ok value
      | rest => .error (faultAt cs .extraData rest.length)

end SearchQuery.Json
