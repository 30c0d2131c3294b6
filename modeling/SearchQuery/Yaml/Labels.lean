-- The words of a YAML text that name something: anchors and what refers to them, tags, and
-- directives.
import SearchQuery.Text.Utf8
import SearchQuery.Yaml.Texts
import SearchQuery.Yaml.Word

namespace SearchQuery.Yaml

/-- A letter, a digit, or one of two marks. -/
def isNameChar (c : Char) : Bool := c.isAlphanum || c == '-' || c == '_'

/-- The words for a character that is not the one wanted. -/
def insteadOf (wanted : String) (c : Cursor) : String :=
  "expected " ++ wanted ++ ", but found " ++ quotedChar c.peek

/-- A name, behind which one of some characters stands. -/
def readName (context : String) (start : Mark) (isEnd : Char → Bool) (c : Cursor) :
    Except Problem (String × Cursor) :=
  let (name, c) := c.span isNameChar
  if name.isEmpty || !isEnd c.peek then
    .error (.inWord context start (insteadOf "alphabetic or numeric character" c) c.mark)
  else .ok (String.ofList name, c)

/-! ## Anchors -/

/-- The name of an anchor ends here. -/
def endsAnchor (c : Char) : Bool := isGap c || "?:,]\x7d%@\x60".toList.contains c

/-- An anchor, or what refers to one. -/
def scanAnchor (word : String → Word) (context : String) (c : Cursor) :
    Except Problem (Token × Cursor) := do
  let (name, after) ← readName context c.mark endsAnchor c.next
  return (⟨word name, c.mark, after.mark⟩, after)

/-! ## Tags -/

/-- A character of a tag. -/
def isTagChar (c : Char) : Bool := c.isAlphanum || "-;/?:@&=+$,_.!~*'()[]".toList.contains c

/-- Bytes given by two hexadecimal digits each. -/
def escapedBytes (context : String) (start : Mark) : Nat → List UInt8 → Cursor →
    Except Problem (List UInt8 × Cursor)
  | 0, done, c => .ok (done, c)
  | fuel + 1, done, c =>
    if c.peek != '%' then .ok (done, c)
    else
      let c := c.next
      match strayDigit? 2 c with
      | some stray =>
        .error (.inWord context start
          ("expected URI escape sequence of 2 hexadecimal numbers, but found " ++ quotedChar stray)
          c.mark)
      | none =>
        escapedBytes context start fuel (done ++ [UInt8.ofNat (hexNumber 2 c)]) (c.advance 2)

/-- The text of a tag. -/
def readTagText (noun : String) (start : Mark) : Nat → List Char → Cursor → Scanned
  | 0, done, c => .ok (done, c)
  | fuel + 1, done, c =>
    let (piece, c) := c.span isTagChar
    let done := done ++ piece
    if c.peek == '%' then do
      let (bytes, c) ← escapedBytes ("while scanning a " ++ noun) start (c.rest.length + 1) [] c
      readTagText noun start fuel (done ++ (Text.decode bytes).toList) c
    else if done.isEmpty then
      .error (.inWord ("while parsing a " ++ noun) start (insteadOf "URI" c) c.mark)
    else .ok (done, c)

/-- The short name at the start of a tag, from one exclamation mark to the next. -/
def readHandle (noun : String) (start : Mark) (c : Cursor) : Except Problem (String × Cursor) :=
  let wrong (c : Cursor) : Except Problem (String × Cursor) :=
    .error (.inWord ("while scanning a " ++ noun) start (insteadOf "'!'" c) c.mark)
  if c.peek != '!' then wrong c
  else
    let behind := c.next
    if behind.peek == ' ' then .ok ("!", behind)
    else
      let (name, c) := behind.span isNameChar
      if c.peek == '!' then .ok (String.ofList ('!' :: name ++ ['!']), c.next) else wrong c

/-- A tag before its end: its short name, if it has one, and the rest. -/
def readTag (c : Cursor) : Except Problem (Option String × List Char × Cursor) := do
  let start := c.mark
  let fuel := c.rest.length + 1
  if c.peekAt 1 == '<' then
    let (text, c) ← readTagText "tag" start fuel [] (c.advance 2)
    if c.peek == '>' then return (none, text, c.next)
    else throw (.inWord "while parsing a tag" start (insteadOf "'>'" c) c.mark)
  else if isGap (c.peekAt 1) then return (none, ['!'], c.next)
  else
    let named := (c.next.rest.takeWhile (!isSpace ·)).contains '!'
    let (handle, c) ← if named then readHandle "tag" start c else pure ("!", c.next)
    let (text, c) ← readTagText "tag" start fuel [] c
    return (some handle, text, c)

/-- A tag. -/
def scanTag (c : Cursor) : Except Problem (Token × Cursor) := do
  let (handle, suffix, after) ← readTag c
  if isSpace after.peek then
    return (⟨.tag handle (String.ofList suffix), c.mark, after.mark⟩, after)
  else throw (.inWord "while scanning a tag" c.mark (insteadOf "' '" after) after.mark)

/-! ## Directives -/

def directiveContext : String := "while scanning a directive"

/-- A problem with a directive. -/
def directiveProblem (start : Mark) (wanted : String) (c : Cursor) : Problem :=
  .inWord directiveContext start (insteadOf wanted c) c.mark

/-- A number of a version. -/
def readVersionNumber (start : Mark) (c : Cursor) : Except Problem (Nat × Cursor) :=
  let (digits, after) := c.span Char.isDigit
  if digits.isEmpty then .error (directiveProblem start "a digit" c)
  else .ok (Text.ofDigits 10 (digits.filterMap Text.asciiDigit?), after)

/-- The version that a text is written for. -/
def readVersion (start : Mark) (c : Cursor) : Except Problem (Directive × Cursor) := do
  let (major, c) ← readVersionNumber start (c.skip (· == ' '))
  if c.peek != '.' then throw (directiveProblem start "a digit or '.'" c)
  let (minor, c) ← readVersionNumber start c.next
  if !isSpace c.peek then throw (directiveProblem start "a digit or ' '" c)
  return (.version major minor, c)

/-- A short name and the start of the tags that it stands for. -/
def readTagStart (start : Mark) (c : Cursor) : Except Problem (Directive × Cursor) := do
  let (name, c) ← readHandle "directive" start (c.skip (· == ' '))
  if c.peek != ' ' then throw (directiveProblem start "' '" c)
  let c := c.skip (· == ' ')
  let (text, c) ← readTagText "directive" start (c.rest.length + 1) [] c
  if !isSpace c.peek then throw (directiveProblem start "' '" c)
  return (.handle name (String.ofList text), c)

/-- A directive. One that is not known counts for nothing. -/
def scanDirective (c : Cursor) : Except Problem (Token × Cursor) := do
  let start := c.mark
  let (name, c) ← readName directiveContext start isSpace c.next
  let (directive, stop, c) ←
    if name == "YAML" then do
      let (d, c) ← readVersion start c
      pure (d, c.mark, c)
    else if name == "TAG" then do
      let (d, c) ← readTagStart start c
      pure (d, c.mark, c)
    else pure (Directive.other, c.mark, c.skip (!isLineEnd ·))
  return (⟨.directive directive, start, stop⟩, ← skipLine directiveContext start c)

end SearchQuery.Yaml
