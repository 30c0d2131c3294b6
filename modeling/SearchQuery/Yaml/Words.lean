-- The words of a YAML text in order. A word may turn out to be a key only when the colon
-- behind it is found: until then it is a possible key, and what comes before it in the order
-- of words is not yet settled. A possible key that is not followed by a colon in time is
-- given up, unless a key has to stand there.
import SearchQuery.Entries
import SearchQuery.Yaml.Labels

namespace SearchQuery.Yaml

/-- A word that may turn out to be a key. -/
structure PossibleKey where
  /-- Its number among all words. -/
  number : Nat
  /-- A key has to stand here. -/
  required : Bool
  mark : Mark
  deriving DecidableEq, Repr

/-- A scanner on its way through a text. -/
structure Scanner where
  cursor : Cursor
  /-- How many brackets are open. -/
  depth : Nat := 0
  /-- The column of the innermost list or map of lines. -/
  indent : Int := -1
  /-- The columns of those around it. -/
  indents : List Int := []
  /-- A key may start at the next word. -/
  keyAllowed : Bool := true
  /-- The possible keys, by the number of brackets around them. -/
  keys : List (Nat × PossibleKey) := []
  /-- The words so far, the last one first. -/
  words : List Token := []
  /-- The text has ended. -/
  done : Bool := false

namespace Scanner

def mark (s : Scanner) : Mark := s.cursor.mark

def inBrackets (s : Scanner) : Bool := s.depth != 0

/-- Adds a word. -/
def push (s : Scanner) (t : Token) : Scanner := { s with words := t :: s.words }

/-- Adds a word that has no characters. -/
def pushHere (s : Scanner) (w : Word) : Scanner := s.push ⟨w, s.mark, s.mark⟩

/-- Adds a word of so many characters, and goes on behind it. -/
def take (s : Scanner) (w : Word) (length : Nat) : Scanner :=
  let after := s.cursor.advance length
  { s.push ⟨w, s.mark, after.mark⟩ with cursor := after }

/-- Puts a word before the one of a number. -/
def insertAt (s : Scanner) (number : Nat) (t : Token) : Scanner :=
  let later := s.words.length - number
  { s with words := s.words.take later ++ t :: s.words.drop later }

/-! ## Possible keys -/

/-- The longest text between the start of a key and its colon. -/
def maxKeyLength : Nat := 1024

/-- A possible key is too far back to become one. -/
def isStale (s : Scanner) (k : PossibleKey) : Bool :=
  k.mark.line != s.mark.line || maxKeyLength < s.mark.index - k.mark.index

/-- The problem that a key which has to be there does not come. -/
def missingColon (s : Scanner) (k : PossibleKey) : Problem :=
  .inWord "while scanning a simple key" k.mark "could not find expected ':'" s.mark

/-- Gives up the possible keys that are too far back. -/
def dropStale (s : Scanner) : Except Problem Scanner :=
  match s.keys.find? fun (_, k) => s.isStale k && k.required with
  | some (_, k) => .error (s.missingColon k)
  | none => .ok { s with keys := s.keys.filter fun (_, k) => !s.isStale k }

/-- The possible key among the words with as many brackets around them. -/
def key? (s : Scanner) : Option PossibleKey := s.keys.lookup s.depth

/-- Forgets that key. -/
def forgetKey (s : Scanner) : Scanner := { s with keys := Entries.erase s.depth s.keys }

/-- Gives that key up. -/
def dropKey (s : Scanner) : Except Problem Scanner :=
  match s.key? with
  | some k => if k.required then .error (s.missingColon k) else .ok s.forgetKey
  | none => .ok s

/-- Notes that the next word may be a key, if it may be one. -/
def noteKey (s : Scanner) : Except Problem Scanner :=
  if !s.keyAllowed then .ok s
  else do
    let required := !s.inBrackets && s.indent == s.cursor.column
    let s ← s.dropKey
    return { s with keys := (s.depth, ⟨s.words.length, required, s.mark⟩) :: s.keys }

/-! ## Lists and maps of lines -/

/-- Ends the lists and maps of lines further to the right than a column. -/
def unwind (s : Scanner) (column : Int) : Scanner :=
  if s.inBrackets then s
  else go s s.indents
where
  /-- Goes through the columns around, from the innermost one on. -/
  go (s : Scanner) : List Int → Scanner
    | [] => s
    | outer :: more =>
      if column < s.indent then
        go { s.pushHere .blockEnd with indent := outer, indents := more } more
      else s

/-- Starts a list or a map of lines at a column unless there is one; its first word is put
in place. -/
def startBlock (s : Scanner) (column : Int) (place : Scanner → Scanner) : Scanner :=
  if s.inBrackets || column ≤ s.indent then s
  else place { s with indent := column, indents := s.indent :: s.indents }

/-- Starts a list or a map of lines here. -/
def startHere (s : Scanner) (w : Word) : Scanner :=
  s.startBlock s.cursor.column (·.pushHere w)

/-! ## Kinds of words -/

/-- The end of the text. -/
def fetchEnd (s : Scanner) : Except Problem Scanner := do
  let s ← (s.unwind (-1)).dropKey
  return { s with keyAllowed := false, keys := [], done := true }.pushHere .textEnd

/-- A word that was scanned, with what becomes of the scanner. -/
def took (s : Scanner) (scanned : Except Problem (Token × Cursor)) : Except Problem Scanner := do
  let (token, cursor) ← scanned
  return { s.push token with cursor }

def fetchDirective (s : Scanner) : Except Problem Scanner := do
  let s ← (s.unwind (-1)).dropKey
  { s with keyAllowed := false }.took (scanDirective s.cursor)

/-- The start or the end of a document. -/
def fetchDocumentMark (s : Scanner) (w : Word) : Except Problem Scanner := do
  let s ← (s.unwind (-1)).dropKey
  return { s with keyAllowed := false }.take w 3

/-- A bracket that opens; it may start a key. -/
def fetchOpening (s : Scanner) (w : Word) : Except Problem Scanner := do
  let s ← s.noteKey
  return { s with depth := s.depth + 1, keyAllowed := true }.take w 1

/-- A bracket that closes. -/
def fetchClosing (s : Scanner) (w : Word) : Except Problem Scanner := do
  let s ← s.dropKey
  return { s with depth := s.depth - 1, keyAllowed := false }.take w 1

def fetchComma (s : Scanner) : Except Problem Scanner := do
  let s ← { s with keyAllowed := true }.dropKey
  return s.take .comma 1

/-- A dash. Inside brackets it has no meaning, but is a word. -/
def fetchItem (s : Scanner) : Except Problem Scanner := do
  if !s.inBrackets && !s.keyAllowed then
    throw (.misplaced "sequence entries are not allowed here" s.mark)
  let s ← { s.startHere .listStart with keyAllowed := true }.dropKey
  return s.take .item 1

/-- The mark of a key of any length. -/
def fetchKey (s : Scanner) : Except Problem Scanner := do
  if !s.inBrackets && !s.keyAllowed then
    throw (.misplaced "mapping keys are not allowed here" s.mark)
  let s ← { s.startHere .mapStart with keyAllowed := !s.inBrackets }.dropKey
  return s.take .key 1

/-- A colon. It makes a key of the possible key, if there is one. -/
def fetchColon (s : Scanner) : Except Problem Scanner :=
  match s.key? with
  | some k =>
    let place (w : Word) (s : Scanner) := s.insertAt k.number ⟨w, k.mark, k.mark⟩
    let s := (place .key s.forgetKey).startBlock k.mark.column (place .mapStart)
    .ok ({ s with keyAllowed := false }.take .colon 1)
  | none => do
    if !s.inBrackets && !s.keyAllowed then
      throw (.misplaced "mapping values are not allowed here" s.mark)
    let s ← { s.startHere .mapStart with keyAllowed := !s.inBrackets }.dropKey
    return s.take .colon 1

/-- A word that may be a key, behind which no key may start. -/
def fetchWord (s : Scanner) (scan : Cursor → Except Problem (Token × Cursor)) :
    Except Problem Scanner := do
  let s ← s.noteKey
  { s with keyAllowed := false }.took (scan s.cursor)

/-- A bare text. A key may start behind it if a line ended there. -/
def fetchBare (s : Scanner) : Except Problem Scanner := do
  let s ← s.noteKey
  let (token, ended, cursor) := scanBare s.inBrackets (s.indent + 1) s.cursor
  return { s.push token with cursor, keyAllowed := ended }

/-- A text on lines of its own. -/
def fetchBlock (s : Scanner) (fold : Bool) : Except Problem Scanner := do
  let s ← { s with keyAllowed := true }.dropKey
  s.took (scanBlock fold s.indent s.cursor)

/-! ## Going on -/

/-- Goes to the next word. Outside brackets a key may start on a new line. -/
def skipGaps (s : Scanner) : Nat → Scanner
  | 0 => s
  | fuel + 1 =>
    let cursor := (s.cursor.skip (· == ' ')).skipComment
    if isBreak cursor.peek then
      { s with cursor := cursor.lineBreak.2, keyAllowed := s.keyAllowed || !s.inBrackets }.skipGaps
        fuel
    else { s with cursor }

/-- Goes to the next word from where the last one ended. -/
def skipToWord (s : Scanner) : Scanner :=
  let cursor :=
    if s.mark.index == 0 && s.cursor.peek == orderMark then s.cursor.next else s.cursor
  { s with cursor }.skipGaps (s.cursor.rest.length + 1)

/-- Takes the word that stands here. -/
def fetchHere (s : Scanner) : Except Problem Scanner :=
  let c := s.cursor
  let atStart := c.column == 0
  let behind := c.peekAt 1
  match c.peek with
  | '\x00' => s.fetchEnd
  | '[' => s.fetchOpening .openList
  | '\x7b' => s.fetchOpening .openMap
  | ']' => s.fetchClosing .closeList
  | '\x7d' => s.fetchClosing .closeMap
  | ',' => s.fetchComma
  | '*' => s.fetchWord (scanAnchor .alias "while scanning an alias")
  | '&' => s.fetchWord (scanAnchor .anchor "while scanning an anchor")
  | '!' => s.fetchWord scanTag
  | '\'' => s.fetchWord (scanQuoted false)
  | '"' => s.fetchWord (scanQuoted true)
  | char =>
    if char == '%' && atStart then s.fetchDirective
    else if atStart && c.hasTriple '-' then s.fetchDocumentMark .documentStart
    else if atStart && c.hasTriple '.' then s.fetchDocumentMark .documentEnd
    else if char == '-' && isGap behind then s.fetchItem
    else if char == '?' && (s.inBrackets || isGap behind) then s.fetchKey
    else if char == ':' && (s.inBrackets || isGap behind) then s.fetchColon
    else if char == '|' && !s.inBrackets then s.fetchBlock false
    else if char == '>' && !s.inBrackets then s.fetchBlock true
    else if startsBare s.inBrackets c then s.fetchBare
    else
      .error (.told .words (some ("while scanning for the next token", none))
        ("found character " ++ quotedChar char ++ " that cannot start any token") s.mark)

/-- Takes the next word, and the ends of lists and maps of lines before it. -/
def fetch (s : Scanner) : Except Problem Scanner := do
  let s ← s.skipToWord.dropStale
  (s.unwind s.cursor.column).fetchHere

/-- The words that are settled, in order: none of them comes behind a possible key. -/
def settled (s : Scanner) : List Token :=
  let pending := s.keys.map (·.2.number)
  s.words.reverse.take (pending.foldl min s.words.length)

end Scanner

/-! ## All words -/

/-- The words of a text up to its end, or up to a problem. -/
structure Words where
  words : List Token
  problem : Option Problem := none

/-- The problem behind the part of a text that can be read, where it is reached. -/
structure Wall where
  index : Nat
  fault : Fault

/-- What is met first: the wall, if a place is there already. -/
def Wall.orElse (wall : Option Wall) (index : Nat) (p : Problem) : Problem :=
  match wall with
  | some w => if w.index ≤ index then .value w.fault else p
  | none => p

/-- The place of a problem, if it has one. -/
def Problem.index? : Problem → Option Nat
  | .told _ _ _ mark => some mark.index
  | .value _ => none

/-- Goes on to the end of the text, the wall or a problem. -/
def Scanner.finish (wall : Option Wall) : Nat → Scanner → Words
  | 0, s => { words := s.settled }
  | fuel + 1, s =>
    if s.done then { words := s.words.reverse }
    else match s.dropStale with
      | .error p => { words := s.settled, problem := some p }
      | .ok s =>
        let stopped (p : Problem) : Words := { words := s.settled, problem := some p }
        match s.fetch, wall with
        | .error p, wall => stopped (Wall.orElse wall (p.index?.getD 0) p)
        | .ok next, some w =>
          if w.index ≤ next.mark.index then stopped (.value w.fault) else next.finish wall fuel
        | .ok next, none => next.finish wall fuel

/-- The words of a text. -/
def wordsOf (cs : List Char) (wall : Option Wall) : Words :=
  Scanner.finish wall (cs.length + 2) { cursor := { rest := cs } }

end SearchQuery.Yaml
