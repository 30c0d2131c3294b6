-- Texts inside a YAML text: bare, between quotes, or on lines of their own below a mark. A
-- text may go on over lines; a single end of a line becomes a blank, several lose one.
import SearchQuery.Yaml.Problem
import SearchQuery.Yaml.Word

namespace SearchQuery.Yaml

/-- A text that was read, and the place behind it. -/
abbrev Scanned := Except Problem (List Char × Cursor)

/-- What the end of a line and the empty lines behind it become inside a text. -/
def folded (lineBreak breaks : List Char) : List Char :=
  if lineBreak != ['\n'] then lineBreak ++ breaks
  else if breaks.isEmpty then [' ']
  else breaks

/-! ## Texts between quotes -/

/-- The character that a letter after a backslash stands for. -/
def escape? : Char → Option Char
  | '0' => some '\x00'
  | 'a' => some '\x07'
  | 'b' => some '\x08'
  | 't' | '\t' => some '\t'
  | 'n' => some '\n'
  | 'v' => some '\x0b'
  | 'f' => some '\x0c'
  | 'r' => some '\r'
  | 'e' => some '\x1b'
  | ' ' => some ' '
  | '"' => some '"'
  | '\\' => some '\\'
  | '/' => some '/'
  | 'N' => some '\x85'
  | '_' => some '\xa0'
  | 'L' => some '\u2028'
  | 'P' => some '\u2029'
  | _ => none

/-- The number of hexadecimal digits after a letter that asks for a number. -/
def numberWidth? : Char → Option Nat
  | 'x' => some 2
  | 'u' => some 4
  | 'U' => some 8
  | _ => none

/-- The character of a number. -/
def charOf (n : Nat) : Except Problem Char :=
  if 0x7FFFFFFF < n then .error (.value .characterTooLarge)
  else if 0x10FFFF < n then .error (.value .noSuchCharacter)
  else .ok (Text.ofCode n)

/-- The first of the next characters that is no hexadecimal digit. -/
def strayDigit? (width : Nat) (c : Cursor) : Option Char :=
  ((List.range width).map c.peekAt).find? fun digit => (Text.hexDigit? digit).isNone

/-- The number of the next hexadecimal digits. -/
def hexNumber (width : Nat) (c : Cursor) : Nat :=
  Text.ofDigits 16 ((c.rest.take width).filterMap Text.hexDigit?)

/-- The ends of lines and the blanks around them up to the next character of a text. -/
def quotedBreaks (start : Mark) : Nat → List Char → Cursor → Scanned
  | 0, done, c => .ok (done, c)
  | fuel + 1, done, c =>
    if c.hasDocumentMark then
      .error (.inWord "while scanning a quoted scalar" start "found unexpected document separator"
        c.mark)
    else
      let c := c.skip isBlank
      if isBreak c.peek then
        let (lineBreak, c) := c.lineBreak
        quotedBreaks start fuel (done ++ lineBreak) c
      else .ok (done, c)

/-- What stands behind a backslash. -/
def readEscape (start : Mark) (c : Cursor) : Scanned :=
  let letter := c.peek
  match escape? letter, numberWidth? letter with
  | some char, _ => .ok ([char], c.next)
  | none, some width =>
    let c := c.next
    match strayDigit? width c with
    | some stray =>
      .error (.inWord "while scanning a double-quoted scalar" start
        ("expected escape sequence of " ++ toString width ++ " hexadecimal numbers, but found " ++
          quotedChar stray) c.mark)
    | none => do return ([← charOf (hexNumber width c)], c.advance width)
  | none, none =>
    if isBreak letter then quotedBreaks start (c.rest.length + 1) [] c.lineBreak.2
    else
      .error (.inWord "while scanning a double-quoted scalar" start
        ("found unknown escape character " ++ quotedChar letter) c.mark)

/-- Blanks inside a text, or the end of a line with what follows up to the next character. -/
def quotedGap (start : Mark) (c : Cursor) : Scanned :=
  let (blanks, c) := c.span isBlank
  if c.peek == '\x00' then
    .error (.inWord "while scanning a quoted scalar" start "found unexpected end of stream" c.mark)
  else if isBreak c.peek then do
    let (lineBreak, c) := c.lineBreak
    let (breaks, c) ← quotedBreaks start (c.rest.length + 1) [] c
    return (folded lineBreak breaks, c)
  else .ok (blanks, c)

/-- A text after its opening quote. `done` holds what is read so far. -/
def readQuoted (double : Bool) (start : Mark) : Nat → List Char → Cursor → Scanned
  | 0, done, c => .ok (done, c)
  | fuel + 1, done, c =>
    let char := c.peek
    let more (s : Scanned) : Scanned := do
      let (piece, c) ← s
      readQuoted double start fuel (piece.reverse ++ done) c
    if char == '"' && double then .ok (done.reverse, c.next)
    else if char == '\'' && !double then
      if c.peekAt 1 == '\'' then more (.ok (['\''], c.advance 2)) else .ok (done.reverse, c.next)
    else if char == '\\' && double then more (readEscape start c.next)
    else if isGap char then more (quotedGap start c)
    else more (.ok ([char], c.next))

/-- A text between quotes. -/
def scanQuoted (double : Bool) (c : Cursor) : Except Problem (Token × Cursor) := do
  let (text, after) ← readQuoted double c.mark (c.rest.length + 1) [] c.next
  return (⟨.scalar (String.ofList text) false, c.mark, after.mark⟩, after)

/-! ## Bare texts -/

/-- A character that has a meaning inside brackets. -/
def isBracket (c : Char) : Bool :=
  c == ',' || c == '[' || c == ']' || c == '\x7b' || c == '\x7d'

/-- A bare text ends before a character; the one behind it is given too. -/
def endsBare (inBrackets : Bool) (char behind : Char) : Bool :=
  isGap char || (char == ':' && (isGap behind || (inBrackets && isBracket behind))) ||
    (inBrackets && (isBracket char || char == '?'))

/-- The part of a bare text up to the next blank or the end of the text. -/
def barePiece (inBrackets : Bool) : List Char → List Char
  | [] => []
  | char :: rest =>
    if endsBare inBrackets char (rest.headD '\x00') then []
    else char :: barePiece inBrackets rest

/-- The ends of lines and the blanks before the next word, none if a document ends there. -/
def bareBreaks : Nat → List Char → Cursor → Option (List Char) × Cursor
  | 0, done, c => (some done, c)
  | fuel + 1, done, c =>
    if c.peek == ' ' then bareBreaks fuel done c.next
    else if isBreak c.peek then
      let (lineBreak, c) := c.lineBreak
      if c.hasDocumentMark then (none, c) else bareBreaks fuel (done ++ lineBreak) c
    else (some done, c)

/-- What stands between two pieces of a bare text. -/
structure BareGap where
  /-- What it becomes inside the text; nothing if the text ends before it. -/
  text : List Char
  /-- A line ended. -/
  ended : Bool
  cursor : Cursor

/-- What stands behind a piece of a bare text. -/
def bareGap (c : Cursor) : BareGap :=
  let (blanks, c) := c.span (· == ' ')
  if isBreak c.peek then
    let (lineBreak, c) := c.lineBreak
    if c.hasDocumentMark then { text := [], ended := true, cursor := c }
    else match bareBreaks (c.rest.length + 1) [] c with
      | (some breaks, c) => { text := folded lineBreak breaks, ended := true, cursor := c }
      | (none, c) => { text := [], ended := true, cursor := c }
  else { text := blanks, ended := false, cursor := c }

/-- A bare text that was read. -/
structure Bare where
  text : List Char := []
  /-- The place behind its last piece. -/
  stop : Mark
  /-- A line ended behind its last piece. -/
  ended : Bool := false
  cursor : Cursor

/-- A bare text. Outside brackets it goes on in lines from the column `indent` on. -/
def readBare (inBrackets : Bool) (indent : Int) : Nat → Bare → Bare
  | 0, b => b
  | fuel + 1, b =>
    let piece := barePiece inBrackets b.cursor.rest
    if piece.isEmpty || b.cursor.peek == '#' then b
    else
      let behind := b.cursor.advance piece.length
      let gap := bareGap behind
      let read : Bare :=
        { text := b.text ++ piece, stop := behind.mark, ended := gap.ended, cursor := gap.cursor }
      if gap.text.isEmpty || gap.cursor.peek == '#' ||
          (!inBrackets && gap.cursor.column < indent) then read
      else
        let more := readBare inBrackets indent fuel { read with text := read.text ++ gap.text }
        if more.stop == read.stop then read else more

/-- A bare text as a word; and whether a line ended behind it. -/
def scanBare (inBrackets : Bool) (indent : Int) (c : Cursor) : Token × Bool × Cursor :=
  let bare := readBare inBrackets indent (c.rest.length + 1) { stop := c.mark, cursor := c }
  (⟨.scalar (String.ofList bare.text) true, c.mark, bare.stop⟩, bare.ended, bare.cursor)

/-- A bare text can start here. -/
def startsBare (inBrackets : Bool) (c : Cursor) : Bool :=
  let char := c.peek
  let isMark := "-?:,[]\x7b\x7d#&*!|>'\"%@\x60".toList.contains char
  (!isGap char && !isMark) ||
    (!isGap (c.peekAt 1) && (char == '-' || (!inBrackets && (char == '?' || char == ':'))))

/-! ## Texts on lines of their own -/

/-- What becomes of the ends of lines at the end of a text. -/
inductive Chomping where
  /-- The last line keeps its end. -/
  | clip
  /-- All of them are kept. -/
  | keep
  /-- None is kept. -/
  | strip
  deriving DecidableEq, Repr

/-- What the mark before a text on lines asks for. -/
structure BlockHeader where
  chomping : Chomping := .clip
  /-- The columns that the lines stand in from the surrounding lines. -/
  deeper : Option Nat := none
  deriving DecidableEq, Repr

def blockContext : String := "while scanning a block scalar"

/-- How ends of lines are treated, if that is told here. -/
def readChomping (c : Cursor) : Option Chomping × Cursor :=
  if c.peek == '+' then (some .keep, c.next)
  else if c.peek == '-' then (some .strip, c.next)
  else (none, c)

/-- How deep lines stand, if that is told here. -/
def readDeeper (start : Mark) (c : Cursor) : Except Problem (Option Nat × Cursor) :=
  match Text.asciiDigit? c.peek with
  | none => .ok (none, c)
  | some 0 =>
    .error (.inWord blockContext start
      "expected indentation indicator in the range 1-9, but found 0" c.mark)
  | some n => .ok (some n, c.next)

/-- The header of a text on lines; its two parts come in any order. -/
def readHeader (start : Mark) (c : Cursor) : Except Problem (BlockHeader × Cursor) := do
  let (first, c) := readChomping c
  let (deeper, c) ← readDeeper start c
  let (second, c) := if first.isNone && deeper.isSome then readChomping c else (none, c)
  if isSpace c.peek then
    return ({ chomping := (first <|> second).getD .clip, deeper }, c)
  else
    throw (.inWord blockContext start
      ("expected chomping or indentation indicators, but found " ++ quotedChar c.peek) c.mark)

/-- The place behind the rest of a line that holds nothing but a comment. -/
def skipLine (context : String) (start : Mark) (c : Cursor) : Except Problem Cursor :=
  let c := (c.skip (· == ' ')).skipComment
  if isLineEnd c.peek then .ok c.lineBreak.2
  else
    .error (.inWord context start
      ("expected a comment or a line break, but found " ++ quotedChar c.peek) c.mark)

/-- The empty lines before a text, the greatest column reached in them, and the place behind
their last end. -/
def leadingLines : Nat → List Char → Nat → Mark → Cursor → List Char × Nat × Mark × Cursor
  | 0, done, widest, stop, c => (done, widest, stop, c)
  | fuel + 1, done, widest, stop, c =>
    if c.peek == ' ' then
      let c := c.next
      leadingLines fuel done (max widest c.column) stop c
    else if isBreak c.peek then
      let (lineBreak, c) := c.lineBreak
      leadingLines fuel (done ++ lineBreak) widest c.mark c
    else (done, widest, stop, c)

/-- The place behind the spaces before a column. -/
def skipIndent (indent : Nat) : Nat → Cursor → Cursor
  | 0, c => c
  | fuel + 1, c => if c.column < indent && c.peek == ' ' then skipIndent indent fuel c.next else c

/-- The empty lines before the next line of a text, and the place behind their last end. -/
def emptyLines (indent : Nat) : Nat → List Char → Mark → Cursor → List Char × Mark × Cursor
  | 0, done, stop, c => (done, stop, c)
  | fuel + 1, done, stop, c =>
    let c := skipIndent indent indent c
    if isBreak c.peek then
      let (lineBreak, c) := c.lineBreak
      emptyLines indent fuel (done ++ lineBreak) c.mark c
    else (done, stop, c)

/-- A text on lines while it is read. -/
structure Block where
  text : List Char := []
  /-- The end of the last line. -/
  lineBreak : List Char := []
  /-- The ends of the empty lines behind it. -/
  breaks : List Char
  stop : Mark
  cursor : Cursor

/-- The lines of a text from a column on. -/
def readLines (fold : Bool) (indent : Nat) : Nat → Block → Block
  | 0, b => b
  | fuel + 1, b =>
    if b.cursor.column != indent || b.cursor.peek == '\x00' then b
    else
      let plain := !isBlank b.cursor.peek
      let (line, c) := b.cursor.span (!isLineEnd ·)
      let (lineBreak, c) := c.lineBreak
      let (breaks, stop, c) := emptyLines indent (c.rest.length + 1) [] c.mark c
      let text := b.text ++ b.breaks ++ line
      if c.column == indent && c.peek != '\x00' then
        let joint :=
          if fold && lineBreak == ['\n'] && plain && !isBlank c.peek then
            (if breaks.isEmpty then [' '] else [])
          else lineBreak
        readLines fold indent fuel { text := text ++ joint, breaks, stop, cursor := c }
      else { text, lineBreak, breaks, stop, cursor := c }

/-- A text on lines below its mark. `outer` is the column of the surrounding lines. -/
def scanBlock (fold : Bool) (outer : Int) (c : Cursor) : Except Problem (Token × Cursor) := do
  let start := c.mark
  let (header, c) ← readHeader start c.next
  let c ← skipLine blockContext start c
  let least := max 1 (outer + 1).toNat
  let fuel := c.rest.length + 1
  let (indent, breaks, stop, c) := match header.deeper with
    | none =>
      let (breaks, widest, stop, c) := leadingLines fuel [] 0 c.mark c
      (max least widest, breaks, stop, c)
    | some n =>
      let indent := least + n - 1
      let (breaks, stop, c) := emptyLines indent fuel [] c.mark c
      (indent, breaks, stop, c)
  let b := readLines fold indent fuel { breaks, stop, cursor := c }
  let text := b.text ++ match header.chomping with
    | .strip => []
    | .clip => b.lineBreak
    | .keep => b.lineBreak ++ b.breaks
  return (⟨.scalar (String.ofList text) false, start, b.stop⟩, b.cursor)

end SearchQuery.Yaml
