-- The tree that the words of a YAML text make: texts, lists and maps, each with its tag and
-- its place.
import SearchQuery.Yaml.Scalar
import SearchQuery.Yaml.Words

namespace SearchQuery.Yaml

/-- The kinds of parts. -/
inductive Kind where
  | scalar | list | map
  deriving DecidableEq, Repr

/-- The name of a kind in messages. -/
def Kind.name : Kind → String
  | .scalar => "scalar"
  | .list => "sequence"
  | .map => "mapping"

/-- A part of a tree. -/
inductive Node where
  | scalar (tag : Tag) (text : String) (start : Mark)
  | list (tag : Tag) (items : List Node) (start : Mark)
  | map (tag : Tag) (entries : List (Node × Node)) (start : Mark)
  /-- A list or a map inside itself. -/
  | loop (kind : Kind) (start : Mark)

namespace Node

instance : Inhabited Node := ⟨.loop .map {}⟩

def start : Node → Mark
  | .scalar _ _ start | .list _ _ start | .map _ _ start | .loop _ start => start

def kind : Node → Kind
  | .scalar .. => .scalar
  | .list .. => .list
  | .map .. => .map
  | .loop kind _ => kind

/-- The tag of a part. One that lies inside itself has the tag of its kind here. -/
def tag : Node → Tag
  | .scalar tag .. | .list tag .. | .map tag .. => tag
  | .loop .list _ => .list
  | .loop .. => .map

/-- A part that is not written out. -/
def empty (mark : Mark) : Node := .scalar .null "" mark

end Node

/-! ## Reading words -/

/-- What is known while words are read. -/
structure Reader where
  words : List Token
  /-- The problem behind the last word. -/
  problem : Option Problem := none
  /-- The short names for the starts of tags. -/
  handles : List (String × String) := []
  /-- The parts with an anchor. One that is being read lies inside itself. -/
  anchors : List (String × Node) := []

/-- A step of reading. -/
abbrev Reading := StateT Reader (Except Problem)

namespace Reading

/-- The next word. -/
def peek : Reading Token := do
  let r ← get
  match r.words with
  | t :: _ => return t
  | [] => throw (r.problem.getD (.misplaced "" {}))

/-- Takes the next word. -/
def take : Reading Token := do
  let t ← peek
  modify fun r => { r with words := r.words.drop 1 }
  return t

/-- Whether the next word is one of some. -/
def sees (ws : List Word) : Reading Bool := return ws.contains (← peek).word

end Reading

open Reading

/-! ## Tags and anchors -/

/-- What may stand in front of a part. -/
structure Properties where
  anchor : Option String := none
  tag : Option (Option String × String × Mark) := none
  start : Option Mark := none
  /-- The place behind it. -/
  stop : Mark := {}

/-- Takes an anchor or a tag, if one stands here and there is none yet. -/
def readProperty (p : Properties) : Reading Properties := do
  let t ← peek
  let start := p.start <|> some t.start
  match t.word with
  | .anchor name =>
    if p.anchor.isSome then return p
    let _ ← take
    return { p with anchor := some name, start, stop := t.stop }
  | .tag handle suffix =>
    if p.tag.isSome then return p
    let _ ← take
    return { p with tag := some (handle, suffix, t.start), start, stop := t.stop }
  | _ => return p

/-- The full name of the tag in front of a part. -/
def readTagName (p : Properties) : Reading (Option String) := do
  match p.tag with
  | none => return none
  | some (none, suffix, _) => return some suffix
  | some (some handle, suffix, mark) =>
    match (← get).handles.lookup handle with
    | some start => return some (start ++ suffix)
    | none =>
      throw (.inTree "while parsing a node" (p.start.getD mark)
        ("found undefined tag handle " ++ Text.quoted handle) mark)

/-- Notes that a part with an anchor begins. -/
def openAnchor (anchor : Option String) (kind : Kind) (start : Mark) : Reading Unit := do
  let some name := anchor | return
  if let some first := (← get).anchors.lookup name then
    throw (.told .document
      (some ("found duplicate anchor " ++ Text.quoted name ++ "; first occurrence",
        some first.start)) "second occurrence" start)
  modify fun r => { r with anchors := (name, .loop kind start) :: r.anchors }

/-- Notes the part of an anchor. -/
def closeAnchor (anchor : Option String) (n : Node) : Reading Node := do
  if let some name := anchor then
    modify fun r => { r with anchors := (name, n) :: Entries.erase name r.anchors }
  return n

/-- The part that is referred to. -/
def readAlias (name : String) (mark : Mark) : Reading Node := do
  match (← get).anchors.lookup name with
  | some n => return n
  | none => throw (.told .document none ("found undefined alias " ++ Text.quoted name) mark)

/-- The tag of a part: the one in front of it, unless that is a mere exclamation mark. -/
def tagOr (name : Option String) (default : Tag) : Tag :=
  match name with
  | none | some "!" => default
  | some name => .ofName name

/-- The tag of a text. One between quotes is nothing but itself. -/
def scalarTag (name : Option String) (text : String) (bare : Bool) : Tag :=
  match name with
  | none => if bare then tagOf text else .text
  | some "!" => tagOf text
  | some name => .ofName name

/-! ## Parts -/

/-- The problem that a list or a map does not go on as it should. -/
def wrongWord (noun : String) (start : Mark) (wanted : String) (t : Token) : Problem :=
  .inTree ("while parsing a " ++ noun) start (wanted ++ " " ++ Text.quoted t.word.name) t.start

/-- Where a part stands. -/
inductive Position where
  /-- Inside brackets. -/
  | brackets
  /-- In a list of lines. -/
  | lines
  /-- In a map of lines, where a list needs no further indentation. -/
  | entry
  deriving DecidableEq, Repr

/-- The word for a position in messages. -/
def Position.noun : Position → String
  | .brackets => "flow node"
  | .lines | .entry => "block node"

/-- The words behind a key of a map of lines when it is not written out, or its value. -/
def entryEnds : List Word := [.key, .colon, .blockEnd]

mutual
/-- A part. -/
def readNode (p : Position) : Nat → Reading Node
  | 0 => throw (.misplaced "" {})
  | fuel + 1 => do
    let t ← peek
    if let .alias name := t.word then
      let _ ← take
      return ← readAlias name t.start
    let props ← readProperty (← readProperty {})
    let name ← readTagName props
    let t ← peek
    let start := props.start.getD t.start
    let note (kind : Kind) : Reading Unit := openAnchor props.anchor kind start
    let node ← match t.word, p with
      | .scalar text bare, _ => do
        let _ ← take
        note .scalar
        pure (.scalar (scalarTag name text bare) text start)
      | .item, .entry => do
        note .list
        pure (.list (tagOr name .list) (← readEvenItems fuel) start)
      | .openList, _ => do
        let _ ← take
        note .list
        pure (.list (tagOr name .list) (← readInnerItems t.start true fuel) start)
      | .openMap, _ => do
        let _ ← take
        note .map
        pure (.map (tagOr name .map) (← readInnerEntries t.start true fuel) start)
      | .listStart, .lines | .listStart, .entry => do
        let _ ← take
        note .list
        pure (.list (tagOr name .list) (← readItems t.start fuel) start)
      | .mapStart, .lines | .mapStart, .entry => do
        let _ ← take
        note .map
        pure (.map (tagOr name .map) (← readEntries t.start fuel) start)
      | _, _ =>
        if props.start.isSome then do
          note .scalar
          pure (.scalar (scalarTag name "" name.isNone) "" start)
        else throw (wrongWord p.noun start "expected the node content, but found" t)
    closeAnchor props.anchor node
/-- A part, or an empty one if one of some words stands there. -/
def readUnless (ends : List Word) (p : Position) (mark : Mark) : Nat → Reading Node
  | 0 => throw (.misplaced "" {})
  | fuel + 1 => do if ← sees ends then return .empty mark else readNode p fuel
/-- The items of a list of lines. -/
def readItems (start : Mark) : Nat → Reading (List Node)
  | 0 => throw (.misplaced "" {})
  | fuel + 1 => do
    let t ← peek
    match t.word with
    | .item => do
      let _ ← take
      let item ← readUnless [.item, .blockEnd] .lines t.stop fuel
      return item :: (← readItems start fuel)
    | .blockEnd => do
      let _ ← take
      return []
    | _ => throw (wrongWord "block collection" start "expected <block end>, but found" t)
/-- The items of a list of lines in a map, that stand no deeper than its keys. -/
def readEvenItems : Nat → Reading (List Node)
  | 0 => throw (.misplaced "" {})
  | fuel + 1 => do
    let t ← peek
    if t.word == .item then
      let _ ← take
      let item ← readUnless (.item :: entryEnds) .lines t.stop fuel
      return item :: (← readEvenItems fuel)
    else return []
/-- The value of an entry, which may be left out. -/
def readValue (ends : List Word) (p : Position) : Nat → Reading Node
  | 0 => throw (.misplaced "" {})
  | fuel + 1 => do
    let t ← peek
    if t.word == .colon then
      let _ ← take
      readUnless ends p t.stop fuel
    else return .empty t.start
/-- The entries of a map of lines. -/
def readEntries (start : Mark) : Nat → Reading (List (Node × Node))
  | 0 => throw (.misplaced "" {})
  | fuel + 1 => do
    let t ← peek
    match t.word with
    | .key => do
      let _ ← take
      let key ← readUnless entryEnds .entry t.stop fuel
      let value ← readValue entryEnds .entry fuel
      return (key, value) :: (← readEntries start fuel)
    | .blockEnd => do
      let _ ← take
      return []
    | _ => throw (wrongWord "block mapping" start "expected <block end>, but found" t)
/-- The items of a list in brackets. A single entry is a map. -/
def readInnerItems (start : Mark) (first : Bool) : Nat → Reading (List Node)
  | 0 => throw (.misplaced "" {})
  | fuel + 1 => do
    let t ← peek
    if t.word == .closeList then
      let _ ← take
      return []
    if !first then
      if t.word == .comma then let _ ← take
      else throw (wrongWord "flow sequence" start "expected ',' or ']', but got" t)
    let t ← peek
    match t.word with
    | .key => do
      let _ ← take
      let key ← readUnless [.colon, .comma, .closeList] .brackets t.stop fuel
      let value ← readValue [.comma, .closeList] .brackets fuel
      return .map .map [(key, value)] t.start :: (← readInnerItems start false fuel)
    | .closeList => do
      let _ ← take
      return []
    | _ => do
      let item ← readNode .brackets fuel
      return item :: (← readInnerItems start false fuel)
/-- The entries of a map in brackets. -/
def readInnerEntries (start : Mark) (first : Bool) : Nat → Reading (List (Node × Node))
  | 0 => throw (.misplaced "" {})
  | fuel + 1 => do
    let t ← peek
    if t.word == .closeMap then
      let _ ← take
      return []
    if !first then
      if t.word == .comma then let _ ← take
      else throw (wrongWord "flow mapping" start "expected ',' or '\x7d', but got" t)
    let t ← peek
    match t.word with
    | .key => do
      let _ ← take
      let key ← readUnless [.colon, .comma, .closeMap] .brackets t.stop fuel
      let value ← readValue [.comma, .closeMap] .brackets fuel
      return (key, value) :: (← readInnerEntries start false fuel)
    | .closeMap => do
      let _ ← take
      return []
    | _ => do
      let key ← readNode .brackets fuel
      let value : Node := .empty (← peek).start
      return (key, value) :: (← readInnerEntries start false fuel)
end

/-! ## Documents -/

/-- The short names for the starts of tags that every document has. -/
def standardHandles : List (String × String) := [("!", "!"), ("!!", tagStart)]

/-- Takes the directives of a document. -/
def readDirectives (versioned : Bool) (handles : List (String × String)) : Nat → Reading Unit
  | 0 => return
  | fuel + 1 => do
    let t ← peek
    let wrong (text : String) : Problem := .told .tree none text t.start
    match t.word with
    | .directive d => do
      let _ ← take
      match d with
      | .version major _ =>
        if versioned then throw (wrong "found duplicate YAML directive")
        if major != 1 then
          throw (wrong "found incompatible YAML document (version 1.* is required)")
        readDirectives true handles fuel
      | .handle name start =>
        if (handles.lookup name).isSome then
          throw (wrong ("duplicate tag handle " ++ Text.quoted name))
        readDirectives versioned (handles ++ [(name, start)]) fuel
      | .other => readDirectives versioned handles fuel
    | _ => modify fun r => { r with handles := handles ++ standardHandles }

/-- Takes the words that end a document. -/
def skipEnds : Nat → Reading Unit
  | 0 => return
  | fuel + 1 => do
    if ← sees [.documentEnd] then
      let _ ← take
      skipEnds fuel

/-- Takes the start of a document, and gives its place. -/
def readDocumentStart (fuel : Nat) : Reading Mark := do
  let start := (← peek).start
  readDirectives false [] fuel
  let t ← peek
  if t.word != .documentStart then
    throw (.told .tree none
      ("expected '<document start>', but found " ++ Text.quoted t.word.name) t.start)
  let _ ← take
  return start

/-- Whether a document has a start of its own. -/
def startsDocument : Word → Bool
  | .directive _ | .documentStart | .textEnd => true
  | _ => false

/-- The tree of a document, after its start if it has one. -/
def readDocument (fuel : Nat) : Reading Node := do
  if startsDocument (← peek).word then
    let _ ← readDocumentStart fuel
    let t ← peek
    if startsDocument t.word || t.word == .documentEnd then return .empty t.start
    else readNode .lines fuel
  else
    modify fun r => { r with handles := standardHandles }
    readNode .lines fuel

/-- The tree of a text, none if the text is empty. There must be no second one. -/
def readText (fuel : Nat) : Reading (Option Node) := do
  if ← sees [.textEnd] then return none
  let tree ← readDocument fuel
  skipEnds fuel
  if ← sees [.textEnd] then return some tree
  let second ← readDocumentStart fuel
  throw (.told .document (some ("expected a single document in the stream", some tree.start))
    "but found another document" second)

/-- The tree of words. -/
def treeOf (w : Words) : Except Problem (Option Node) := do
  let fuel := 4 * w.words.length + 8
  let (tree, _) ← (readText fuel).run { words := w.words, problem := w.problem }
  return tree

end SearchQuery.Yaml
