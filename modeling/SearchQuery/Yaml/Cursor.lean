-- Places in a YAML text, and a cursor that goes through it. Behind the end of a text it sees
-- the character zero, which no text holds.
import SearchQuery.Text.Digit

namespace SearchQuery.Yaml

/-- A place: its line and its column, counted from zero, and the characters before it. -/
structure Mark where
  line : Nat := 0
  column : Nat := 0
  index : Nat := 0
  deriving DecidableEq, Repr

/-! ## Characters -/

/-- A character that ends a line. -/
def isBreak (c : Char) : Bool := c == '\n' || c == '\x85' || c == '\u2028' || c == '\u2029'

/-- A character that ends a line, or the end of the text. -/
def isLineEnd (c : Char) : Bool := isBreak c || c == '\x00'

/-- A blank within a line. -/
def isBlank (c : Char) : Bool := c == ' ' || c == '\t'

/-- A blank, the end of a line or of the text. -/
def isGap (c : Char) : Bool := isBlank c || isLineEnd c

/-- A space, the end of a line or of the text. -/
def isSpace (c : Char) : Bool := c == ' ' || isLineEnd c

/-- The mark of the order of bytes, which takes no column. -/
def orderMark : Char := '\uFEFF'

/-- The place behind a character. -/
def Mark.past (m : Mark) (c : Char) : Mark :=
  if isBreak c then { line := m.line + 1, column := 0, index := m.index + 1 }
  else { m with column := if c == orderMark then m.column else m.column + 1, index := m.index + 1 }

/-! ## Walking -/

/-- A place in a text, and the text from there on. -/
structure Cursor where
  mark : Mark := {}
  rest : List Char
  deriving Repr

namespace Cursor

def column (c : Cursor) : Nat := c.mark.column

/-- The next character. -/
def peek (c : Cursor) : Char := c.rest.headD '\x00'

/-- The character that is so many characters further. -/
def peekAt (c : Cursor) (n : Nat) : Char := (c.rest.drop n).headD '\x00'

/-- The place behind the next character. -/
def next (c : Cursor) : Cursor :=
  match c.rest with
  | [] => c
  | char :: rest => { mark := c.mark.past char, rest }

/-- The place that is so many characters further. -/
def advance : Nat → Cursor → Cursor
  | 0, c => c
  | n + 1, c => advance n c.next

/-- The characters up to the first one without a property, and the place of that one. -/
def span (p : Char → Bool) (c : Cursor) : List Char × Cursor :=
  let word := c.rest.takeWhile p
  (word, c.advance word.length)

/-- The place of the first character without a property. -/
def skip (p : Char → Bool) (c : Cursor) : Cursor := (c.span p).2

/-- The end of a line as it counts in a word, and the place behind it. -/
def lineBreak (c : Cursor) : List Char × Cursor :=
  let char := c.peek
  if char == '\n' || char == '\x85' then (['\n'], c.next)
  else if isBreak char then ([char], c.next)
  else ([], c)

/-- The place at the end of the line if a comment stands here. -/
def skipComment (c : Cursor) : Cursor := if c.peek == '#' then c.skip (!isLineEnd ·) else c

/-- The text goes on with three of a character, and a gap. -/
def hasTriple (c : Cursor) (char : Char) : Bool :=
  c.rest.take 3 == [char, char, char] && isGap (c.peekAt 3)

/-- The text goes on with the mark that starts a document, or with the one that ends it. -/
def hasDocumentMark (c : Cursor) : Bool := c.hasTriple '-' || c.hasTriple '.'

end Cursor

end SearchQuery.Yaml
