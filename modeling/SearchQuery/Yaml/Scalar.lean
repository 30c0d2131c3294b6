-- What the text of a YAML word stands for: nothing, yes or no, a number, a date, or itself.
-- The tag of a text tells which; a bare text has the tag of what it looks like.
import SearchQuery.Text.Base64
import SearchQuery.Text.Split
import SearchQuery.Value.Convert
import SearchQuery.Yaml.Problem

namespace SearchQuery.Yaml

/-! ## Tags -/

/-- The kind of a value. -/
inductive Tag where
  | null | bool | int | float | moment | binary | text | list | map | set
  /-- A list of pairs, each written as a map; no key should come twice. -/
  | ordered
  /-- A list of pairs, each written as a map. -/
  | pairs
  /-- The key of entries that belong to the map around it. -/
  | merge
  /-- The key of the value that a map stands for. -/
  | standard
  | other (name : String)
  deriving DecidableEq, Repr

/-- The start of the names of tags that are known. -/
def tagStart : String := "tag:yaml.org,2002:"

/-- The tags that are known, by the ends of their names. -/
def knownTags : List (String × Tag) := [
  ("null", .null), ("bool", .bool), ("int", .int), ("float", .float), ("timestamp", .moment),
  ("binary", .binary), ("str", .text), ("seq", .list), ("map", .map), ("set", .set),
  ("omap", .ordered), ("pairs", .pairs), ("merge", .merge), ("value", .standard)]

/-- The tag of a name. -/
def Tag.ofName (name : String) : Tag :=
  (knownTags.findSome? fun (ending, tag) =>
    if tagStart ++ ending == name then some tag else none).getD (.other name)

/-- The name of a tag. -/
def Tag.name : Tag → String
  | .other name => name
  | tag =>
    tagStart ++ ((knownTags.find? fun (_, known) => known == tag).map (·.1)).getD ""

/-! ## Words and numbers -/

/-- The words for nothing. -/
def nullWords : List String := ["", "~", "null", "Null", "NULL"]

/-- The words for yes and no, in small letters. -/
def boolWords : List (String × Bool) := [
  ("yes", true), ("true", true), ("on", true), ("no", false), ("false", false), ("off", false)]

/-- A word for yes or no: in small letters, in capital ones, or with a capital at its start. -/
def isBoolWord (s : String) : Bool :=
  boolWords.any fun (word, _) => s == word || s == word.capitalize || s == word.map Char.toUpper

/-- Not empty, and made of digits with `p` and of `_`. -/
def isNumeral (p : Char → Bool) (cs : List Char) : Bool :=
  !cs.isEmpty && cs.all fun c => p c || c == '_'

def ungrouped (cs : List Char) : List Char := cs.filter (· != '_')

def isOctal (c : Char) : Bool := '0' ≤ c && c ≤ '7'

/-- Digits and `_`, a digit first. -/
def isGrouped (cs : List Char) : Bool :=
  cs.head?.any Char.isDigit && isNumeral Char.isDigit cs

/-- A decimal number that does not start with zero. -/
def isDecimal (cs : List Char) : Bool := isGrouped cs && cs.head? != some '0'

/-- A part of sixty: one digit, or two with the first below six. -/
def isSixtieth : List Char → Bool
  | [a] => a.isDigit
  | [a, b] => '0' ≤ a && a ≤ '5' && b.isDigit
  | _ => false

/-- A whole number without its sign: binary, octal with a leading zero, hexadecimal,
decimal, or with parts of sixty. -/
def isWhole (cs : List Char) : Bool :=
  match cs with
  | '0' :: 'b' :: rest => isNumeral (fun c => c == '0' || c == '1') rest
  | '0' :: 'x' :: rest => isNumeral (fun c => (Text.hexDigit? c).isSome) rest
  | ['0'] => true
  | '0' :: rest => isNumeral isOctal rest
  | _ =>
    match Text.splitAll ':' cs with
    | first :: parts => isDecimal first && parts.all isSixtieth
    | [] => false

/-- An exponent, which needs a sign; nothing is one too. -/
def isExponent : List Char → Bool
  | [] => true
  | e :: sign :: digits =>
    (e == 'e' || e == 'E') && (sign == '+' || sign == '-') && !digits.isEmpty &&
      digits.all Char.isDigit
  | _ => false

/-- Digits around a point, the first ones only if there is no sign. -/
def isPointed (signed : Bool) (cs : List Char) : Bool :=
  let isPart (c : Char) := c.isDigit || c == '_'
  let whole := cs.takeWhile isPart
  match cs.drop whole.length with
  | '.' :: rest =>
    let fraction := rest.takeWhile isPart
    isExponent (rest.drop fraction.length) &&
      (if whole.isEmpty then !signed && isGrouped fraction else isGrouped whole)
  | _ => false

/-- Parts of sixty, the last one with a point. -/
def isPointedTime (cs : List Char) : Bool :=
  let time := cs.takeWhile (· != '.')
  let fraction := (cs.drop time.length).drop 1
  match Text.splitAll ':' time with
  | first :: part :: parts =>
    cs.contains '.' && isGrouped first && (part :: parts).all isSixtieth &&
      fraction.all fun c => c.isDigit || c == '_'
  | _ => false

/-- A floating-point number. It has a point; infinity and not-a-number start with one. -/
def isReal (cs : List Char) : Bool :=
  let body := (Decimal.splitSign cs).2
  let signed := body.length != cs.length
  let word := String.ofList body
  isPointed signed body || isPointedTime body || [".inf", ".Inf", ".INF"].contains word ||
    (!signed && [".nan", ".NaN", ".NAN"].contains word)

/-! ## Dates -/

/-- The digits of a number in front, at least `least` of them and at most `most`, and the
rest. -/
def takeDigits? (least most : Nat) (cs : List Char) : Option (Nat × List Char) :=
  let digits := (cs.take most).takeWhile Char.isDigit
  if digits.length < least then none
  else some (Decimal.digitsValue digits, cs.drop digits.length)

/-- The text behind a character. -/
def takeMark? (mark : Char) : List Char → Option (List Char)
  | c :: rest => if c == mark then some rest else none
  | [] => none

/-- The first six digits behind a point, as if there were six of them. -/
def microseconds (digits : List Char) : Nat :=
  let six := digits.take 6
  Decimal.digitsValue (six ++ List.replicate (6 - six.length) '0')

/-- How far a clock is ahead of universal time: nothing, or `Z`, or hours and minutes. -/
def readAhead? (cs : List Char) : Option (Option Int) :=
  match cs, cs.dropWhile isBlank with
  | [], _ => some none
  | _, ['Z'] => some (some 0)
  | _, sign :: rest => do
    if sign != '+' && sign != '-' then none
    let (hours, rest) ← takeDigits? 1 2 rest
    let minutes ← match rest with
      | [] => some 0
      | _ => do
        let (minutes, rest) ← takeDigits? 2 2 (← takeMark? ':' rest)
        if rest.isEmpty then some minutes else none
    let ahead : Int := hours * 60 + minutes
    return some (if sign == '-' then -ahead else ahead)
  | _, [] => none

/-- A time of day, behind a date. -/
def readTime? (cs : List Char) : Option DayTime := do
  let body := match cs with
    | 'T' :: rest | 't' :: rest => rest
    | _ => cs.dropWhile isBlank
  if body.length == cs.length then none
  let (hour, rest) ← takeDigits? 1 2 body
  let (minute, rest) ← takeDigits? 2 2 (← takeMark? ':' rest)
  let (second, rest) ← takeDigits? 2 2 (← takeMark? ':' rest)
  let (digits, rest) := match rest with
    | '.' :: rest => Decimal.spanDigits rest
    | _ => ([], rest)
  let ahead ← readAhead? rest
  return { hour, minute, second, microsecond := microseconds digits, ahead }

/-- A date, alone or with a time of day behind it. -/
def readMoment? (cs : List Char) : Option Moment := do
  let (year, rest) ← takeDigits? 4 4 cs
  let (month, rest) ← takeDigits? 1 2 (← takeMark? '-' rest)
  let (day, rest) ← takeDigits? 1 2 (← takeMark? '-' rest)
  if rest.isEmpty then return { year, month, day }
  else return { year, month, day, time := ← readTime? rest }

/-- A bare text is a date. Without a time of day month and day have two digits. -/
def isMoment (cs : List Char) : Bool :=
  match readMoment? cs with
  | some m => m.time.isSome || cs.length == 10
  | none => false

/-! ## The value of a text -/

/-- The tag of a bare text. -/
def tagOf (s : String) : Tag :=
  let cs := s.toList
  if isBoolWord s then .bool
  else if isReal cs then .float
  else if isWhole (Decimal.splitSign cs).2 then .int
  else if s == "<<" then .merge
  else if nullWords.contains s then .null
  else if isMoment cs then .moment
  else if s == "=" then .standard
  else .text

/-- A whole number in digits of a base. -/
def inBase (base : Nat) (cs : List Char) : Except Fault Int :=
  match cs.mapM Text.hexDigit? with
  | some digits =>
    if digits.isEmpty || digits.any (base ≤ ·) then
      .error (.notAnInteger base (Value.text (String.ofList cs)).quotedPiece)
    else .ok (Text.ofDigits base digits)
  | none => .error (.notAnInteger base (Value.text (String.ofList cs)).quotedPiece)

/-- A sign in front, and the text behind it. -/
def splitNumber (s : String) : Except Fault (Bool × List Char) :=
  match ungrouped s.toList with
  | [] => .error .emptyNumber
  | cs => .ok (Decimal.splitSign cs)

/-- A whole number without its sign. -/
def wholeOf (cs : List Char) : Except Fault Int :=
  match cs with
  | [] => .error .emptyNumber
  | ['0'] => .ok 0
  | '0' :: 'b' :: rest => inBase 2 rest
  | '0' :: 'x' :: rest => inBase 16 rest
  | '0' :: _ => inBase 8 cs
  | _ => do
    let parts ← (Text.splitAll ':' cs).mapM fun part => (Value.text (String.ofList part)).toInt
    return parts.foldl (fun n part => 60 * n + part) 0

/-- The whole number of a text. -/
def intOf (s : String) : Except Fault Int := do
  let (negative, cs) ← splitNumber s
  let n ← wholeOf cs
  return if negative then -n else n

/-- Parts of sixty from the last one on, each of them so many times sixty. -/
def sumOfSixties (base : Int) (total : Float) : List Float → Except Fault Float
  | [] => .ok total
  | part :: parts => do
    let weight ← (Value.int base).toFloat
    sumOfSixties (base * 60) (total + part * weight) parts

/-- A floating-point number without its sign. -/
def realOf (cs : List Char) : Except Fault Float := do
  let cs := cs.map Char.toLower
  let word := String.ofList cs
  if word == ".inf" then return 1.0 / 0.0
  else if word == ".nan" then return 0.0 / 0.0
  else if cs.contains ':' then
    let parts ← (Text.splitAll ':' cs).mapM fun part => (Value.text (String.ofList part)).toFloat
    sumOfSixties 1 0 parts.reverse
  else (Value.text word).toFloat

/-- The floating-point number of a text. -/
def floatOf (s : String) : Except Fault Float := do
  let (negative, cs) ← splitNumber s
  if cs.isEmpty then return ← (Value.text "").toFloat
  let x ← realOf cs
  return if negative then -x else x

/-- The date of a text. -/
def momentOf (s : String) : Except Fault Moment := do
  let some m := readMoment? s.toList | throw (.noMember "NoneType" "groupdict")
  if let some minutes := m.time.bind (·.ahead) then Moment.checkAhead minutes
  Moment.checkDate m.year m.month m.day
  if let some time := m.time then Moment.checkTime time
  return m

/-- The value of a text with a tag. -/
def valueOfText (tag : Tag) (s : String) : Except Fault Value :=
  match tag with
  | .null => .ok .null
  | .bool =>
    let word := String.ofList (s.toList.map Char.toLower)
    match boolWords.lookup word with
    | some b => .ok (.bool b)
    | none => .error (.noKey (Text.quoted word))
  | .int => (intOf s).map .int
  | .float => (floatOf s).map .float
  | .moment => (momentOf s).map .moment
  | _ => .ok (.text s)

/-- The value of a text with a tag. The text stands at `start`. -/
def scalarValue (tag : Tag) (s : String) (start : Mark) : Except Problem Value :=
  match tag with
  | .binary => ((Text.Base64.decode s).map .bytes).mapError fun p => .inValue p.text start
  | _ => (valueOfText tag s).mapError .value

end SearchQuery.Yaml
