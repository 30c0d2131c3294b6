-- Numbers read from text. Whole numbers may have `_` between digits and at most 4300
-- digits, also when they are written; floating-point numbers may also be `inf`, `infinity`
-- and `nan`.
import SearchQuery.Decimal.Binary
import SearchQuery.Text.Blank
import SearchQuery.Text.Digit

namespace SearchQuery.Decimal

/-- The longest whole number that is read or written, in digits. -/
def maxDigits : Nat := 4300

/-- Whether a whole number has more digits than are written. -/
def isOverlong (n : Int) : Bool := maxDigits < (Nat.toDigits 10 n.natAbs).length

/-- Why a text is no whole number. -/
inductive ReadFault where
  | invalid
  | tooLong (digits : Nat)
  deriving DecidableEq, Repr

/-- The ASCII digits at the front, and the rest. -/
def spanDigits (cs : List Char) : List Char × List Char :=
  (cs.takeWhile Char.isDigit, cs.dropWhile Char.isDigit)

/-- The number that ASCII digits denote. -/
def digitsValue (cs : List Char) : Nat :=
  Text.ofDigits 10 (cs.filterMap Text.asciiDigit?)

/-- A sign at the front: is it a minus, and what follows. -/
def splitSign : List Char → Bool × List Char
  | '-' :: rest => (true, rest)
  | '+' :: rest => (false, rest)
  | cs => (false, cs)

/-- Digits and `_` at the front: the digits and the rest, none if a `_` does not stand
between two digits. The flag says whether a digit came just before. -/
def spanGrouped? : Bool → List Char → Option (List Char × List Char)
  | afterDigit, '_' :: rest => if afterDigit then spanGrouped? false rest else none
  | afterDigit, c :: rest =>
    if c.isDigit then (spanGrouped? true rest).map fun (ds, tail) => (c :: ds, tail)
    else if afterDigit then some ([], c :: rest) else none
  | afterDigit, [] => if afterDigit then some ([], []) else none

/-- Text with a character outside ASCII is read with its blanks as spaces and its digits
as ASCII digits; other text stays as it is. -/
def plainDigits (cs : List Char) : List Char :=
  if cs.all (·.toNat < 128) then cs
  else cs.map fun c =>
    if c.toNat < 127 then c
    else if Text.isBlank c then ' '
    else match Text.digit? c with
      | some d => Char.ofNat (48 + d)
      | none => '?'

/-- A whole number from plain characters: blanks, a sign, digits, blanks. -/
def readPlainInt (cs : List Char) : Except ReadFault Int :=
  let (negative, body) := splitSign (cs.dropWhile Text.isAsciiSpace)
  match spanGrouped? false body with
  | none => .error .invalid
  | some (digits, rest) =>
    if maxDigits < digits.length then .error (.tooLong digits.length)
    else if rest.all Text.isAsciiSpace then
      let n := digitsValue digits
      .ok (if negative then -(n : Int) else n)
    else .error .invalid

/-- A whole number from text. -/
def readInt (s : String) : Except ReadFault Int := readPlainInt (plainDigits s.toList)

/-- The exponent at the front, none if there is an `e` without digits. -/
def readExponent? : List Char → Option Int
  | [] => some 0
  | c :: rest =>
    if c == 'e' || c == 'E' then
      let (negative, body) := splitSign rest
      let (digits, tail) := spanDigits body
      if digits.isEmpty || !tail.isEmpty then none
      else some (if negative then -(digitsValue digits : Int) else digitsValue digits)
    else none

/-- Infinity or not-a-number by name, in any case. -/
def readNamed? (negative : Bool) (cs : List Char) : Option Float :=
  let name := String.ofList (cs.map Char.toLower)
  if name == "inf" || name == "infinity" then
    some (if negative then -1.0 / 0.0 else 1.0 / 0.0)
  else if name == "nan" then some (0.0 / 0.0)
  else none

/-- A floating-point number without blanks: a sign, digits with a point among or beside
them, an exponent. -/
def readFloat? (cs : List Char) : Option Float :=
  let (negative, body) := splitSign cs
  let (whole, rest) := spanDigits body
  let (fraction, tail) :=
    match rest with
    | '.' :: more => spanDigits more
    | _ => ([], rest)
  if whole.isEmpty && fraction.isEmpty then readNamed? negative body
  else (readExponent? tail).map fun e =>
    ofScientific negative (digitsValue (whole ++ fraction)) (e - fraction.length)

/-- Drops every `_`, none if one does not stand between two digits. -/
def ungroup? : Bool → List Char → Option (List Char)
  | afterDigit, '_' :: rest =>
    match rest with
    | c :: _ => if afterDigit && c.isDigit then ungroup? false rest else none
    | [] => none
  | _, c :: rest => (ungroup? c.isDigit rest).map (c :: ·)
  | _, [] => some []

/-- A floating-point number from plain characters with blanks around. -/
def readPlainFloat? (cs : List Char) : Option Float :=
  (ungroup? false cs).bind fun bare => readFloat? (Text.trimBy Text.isAsciiSpace bare)

/-- A floating-point number from text. -/
def readFloatText? (s : String) : Option Float := readPlainFloat? (plainDigits s.toList)

end SearchQuery.Decimal
