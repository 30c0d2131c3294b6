-- Values as JSON texts, on one line or indented. Not-a-number and both infinities are
-- written as words. A value that JSON has no form for is written as a text.
import SearchQuery.Value.Text

namespace SearchQuery.Json

/-- How a JSON text is laid out. -/
structure Layout where
  /-- Blanks in front of a line for each level; without them everything is on one line. -/
  indent : Option Nat := none
  /-- Characters outside ASCII are written by their numbers. -/
  ascii : Bool := true
  /-- The text for a value that JSON has no form for. -/
  other : Value → String := Value.shown

/-- The numbers of a character in units of sixteen bits: one, or a pair. -/
def unitsOf (c : Char) : List Nat :=
  let n := Text.code c
  if n < 0x10000 then [n]
  else [0xD800 + (n - 0x10000) / 0x400, 0xDC00 + (n - 0x10000) % 0x400]

/-- A character by its numbers. -/
def numbered (c : Char) : List Char :=
  (unitsOf c).flatMap fun n => '\\' :: 'u' :: Text.hexText 4 n

/-- One character of a text between quotes. -/
def escaped (ascii : Bool) (c : Char) : List Char :=
  if c == '"' || c == '\\' then ['\\', c]
  else if c == '\n' then ['\\', 'n']
  else if c == '\r' then ['\\', 'r']
  else if c == '\t' then ['\\', 't']
  else if c == '\x0c' then ['\\', 'f']
  else if c == '\x08' then ['\\', 'b']
  else if c.toNat < 32 || (ascii && 126 < c.toNat) then numbered c
  else [c]

/-- A text between quotes. -/
def quoted (ascii : Bool) (s : String) : String :=
  String.ofList ('"' :: s.toList.flatMap (escaped ascii) ++ ['"'])

/-- A floating-point number. -/
def floatText (x : Float) : String :=
  match Decimal.parts x with
  | .nan => "NaN"
  | .infinite negative => if negative then "-Infinity" else "Infinity"
  | .finite .. => Decimal.floatText x

/-- The text of a key. -/
def keyText (v : Value) : Except Fault String :=
  match v.text?, v with
  | some s, _ => .ok s
  | none, .null => .ok "null"
  | none, .bool b => .ok (if b then "true" else "false")
  | none, .int n => (Value.int n).inWords Value.shown
  | none, .float x => .ok (floatText x)
  | none, other => .error (.keyNotPlain other.typeName)

/-- The start of a line on a level. -/
def Layout.newLine (l : Layout) (level : Nat) : String :=
  match l.indent with
  | some width => String.ofList ('\n' :: List.replicate (width * level) ' ')
  | none => ""

/-- Parts between brackets, each on a line of its own if the text is indented. -/
def Layout.bracketed (l : Layout) (level : Nat) (opening closing : String)
    (parts : List String) : String :=
  if parts.isEmpty then opening ++ closing
  else
    let comma := if l.indent.isSome then "," ++ l.newLine (level + 1) else ", "
    opening ++ l.newLine (level + 1) ++ comma.intercalate parts ++ l.newLine level ++ closing

mutual
/-- A value on a level. -/
def writeAt (l : Layout) (level : Nat) : Value → Except Fault String
  | .null => .ok "null"
  | .bool b => .ok (if b then "true" else "false")
  | .int n => (Value.int n).inWords Value.shown
  | .float x => .ok (floatText x)
  | .text s => .ok (quoted l.ascii s)
  | .list items => (writeItems l level items).map (l.bracketed level "[" "]")
  | .tuple items => (writeItems l level items).map (l.bracketed level "[" "]")
  | .map entries => (writeEntries l level entries).map (l.bracketed level "\x7b" "\x7d")
  | .direction d => .ok (quoted l.ascii d.name)
  | .operator o => .ok (quoted l.ascii o.name)
  | v => (v.inWords l.other).map (quoted l.ascii)
/-- The items of a list on a level, one by one. -/
def writeItems (l : Layout) (level : Nat) : List Value → Except Fault (List String)
  | [] => .ok []
  | v :: rest => do
    let first ← writeAt l (level + 1) v
    return first :: (← writeItems l level rest)
/-- The entries of a map on a level, one by one. -/
def writeEntries (l : Layout) (level : Nat) : List (Value × Value) → Except Fault (List String)
  | [] => .ok []
  | (k, v) :: rest => do
    let key ← keyText k
    let value ← writeAt l (level + 1) v
    return (quoted l.ascii key ++ ": " ++ value) :: (← writeEntries l level rest)
end

/-- The JSON text of a value. -/
def write (l : Layout) (v : Value) : Except Fault String := writeAt l 0 v

end SearchQuery.Json
