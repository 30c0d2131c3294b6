-- What can be wrong with a YAML text, and how it is told: what was being read and where it
-- began, what is wrong, and where.
import SearchQuery.Fault
import SearchQuery.Yaml.Cursor

namespace SearchQuery.Yaml

/-- A problem. -/
inductive Problem where
  /-- What is wrong and where, with what was being read and where that began if it is told. -/
  | told (stage : YamlStage) (context : Option (String × Option Mark)) (text : String)
      (mark : Mark)
  /-- A word stands for a value that is not there. -/
  | value (fault : Fault)
  deriving DecidableEq, Repr

namespace Problem

/-- What is wrong where no word can be. -/
def misplaced (text : String) (mark : Mark) : Problem := .told .words none text mark

/-- What is wrong with a word that began before. -/
def inWord (context : String) (start : Mark) (text : String) (mark : Mark) : Problem :=
  .told .words (some (context, some start)) text mark

/-- What is wrong with a part of the tree that began before. -/
def inTree (context : String) (start : Mark) (text : String) (mark : Mark) : Problem :=
  .told .tree (some (context, some start)) text mark

/-- What is wrong with the value of a part. -/
def inValue (text : String) (mark : Mark) : Problem := .told .value none text mark

/-- A place in words. -/
def markText (file : String) (m : Mark) : String :=
  "  in \"" ++ file ++ "\", line " ++ toString (m.line + 1) ++ ", column " ++
    toString (m.column + 1)

/-- Two places look the same. -/
def looksSame (a b : Mark) : Bool := a.line == b.line && a.column == b.column

/-- The lines that tell a problem. A place that is told twice is left out the first time. -/
def lines (file : String) (context : Option (String × Option Mark)) (text : String)
    (mark : Mark) : List String :=
  let before := match context with
    | none => []
    | some (context, none) => [context]
    | some (context, some start) =>
      if looksSame start mark then [context] else [context, markText file start]
  before ++ [text, markText file mark]

/-- The fault for a problem in a file. -/
def toFault (file : String) : Problem → Fault
  | .told stage context text mark =>
    .malformedYaml stage ("\n".intercalate (lines file context text mark))
  | .value fault => fault

end Problem

/-- A character in quotes, for messages. -/
def quotedChar (c : Char) : String := Text.quoted (String.singleton c)

/-! ## Characters that cannot be in a text -/

/-- A character that a YAML text can hold: no control but tab and ends of lines. -/
def isPrintable (c : Char) : Bool :=
  let n := c.toNat
  n == 9 || n == 10 || n == 13 || (0x20 ≤ n && n ≤ 0x7E) || n == 0x85 ||
    (0xA0 ≤ n && n ≤ 0xFFFD) || 0x10000 ≤ n

/-- The fault for a character of a file that cannot be there. -/
def unprintable (file : String) (c : Char) (place : Nat) : Fault :=
  .malformedYaml .characters
    ("unacceptable character #x" ++ String.ofList (Text.hexText 4 c.toNat) ++
      ": special characters are not allowed\n  in \"" ++ file ++ "\", position " ++ toString place)

/-- The number of characters that are looked at in one go, after twice as many at first. -/
def sheetSize : Nat := 4096

/-- The part of a text that can be read, and the fault that comes behind it, if one comes. A
text is looked at sheet by sheet; nothing of a sheet with an impossible character is read. -/
def readablePart (file : String) (cs : List Char) : List Char × Option Fault :=
  match cs.zipIdx.find? fun (c, _) => !isPrintable c with
  | none => (cs, none)
  | some (c, place) =>
    let sheets := if place < 2 * sheetSize then 0 else place / sheetSize
    (cs.take (sheets * sheetSize), some (unprintable file c place))

end SearchQuery.Yaml
