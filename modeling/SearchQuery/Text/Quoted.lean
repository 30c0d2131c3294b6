-- Texts and byte strings between quotes. A text stands in single quotes unless it holds
-- one and no double quote; what cannot be shown is written by its number.
import SearchQuery.Text.Digit
import SearchQuery.Text.Half
import SearchQuery.Text.HiddenTable

namespace SearchQuery.Text

/-- The character is shown as it is. -/
def isShown (c : Char) : Bool :=
  let n := c.toNat
  if n < 128 then 32 ≤ n && n < 127
  else hiddenRanges.all fun range => n < range.1 || range.2 < n

/-- The quote around a text: the double one if the text holds a single one and no double
one, else the single one. -/
def quoteMark (cs : List Char) : Char :=
  if cs.contains '\'' && !cs.contains '"' then '"' else '\''

/-- A character that cannot be shown, by its number in two, four or eight digits. -/
def numbered (n : Nat) : List Char :=
  if n < 0x100 then '\\' :: 'x' :: hexText 2 n
  else if n < 0x10000 then '\\' :: 'u' :: hexText 4 n
  else '\\' :: 'U' :: hexText 8 n

/-- One character of a quoted text. -/
def escaped (mark c : Char) : List Char :=
  if c == mark || c == '\\' then ['\\', c]
  else if c == '\t' then ['\\', 't']
  else if c == '\n' then ['\\', 'n']
  else if c == '\r' then ['\\', 'r']
  else if isShown c then [c]
  else numbered (code c)

/-- The text between quotes. -/
def quoted (s : String) : String :=
  let mark := quoteMark s.toList
  String.ofList (mark :: s.toList.flatMap (escaped mark) ++ [mark])

/-- One byte of a quoted byte string: a byte above 126 is always written by its number. -/
def escapedByte (mark : Char) (b : UInt8) : List Char :=
  let c := Char.ofNat b.toNat
  if c.toNat < 127 then escaped mark c else '\\' :: 'x' :: hexText 2 b.toNat

/-- A byte string between quotes, marked by a `b`. -/
def quotedBytes (bytes : List UInt8) : String :=
  let mark := quoteMark (bytes.map fun b => Char.ofNat b.toNat)
  String.ofList ('b' :: mark :: bytes.flatMap (escapedByte mark) ++ [mark])

end SearchQuery.Text
