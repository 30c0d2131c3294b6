-- YAML texts as values: the text is cut into words, the words make a tree, and the tree has
-- a value.
import SearchQuery.Yaml.Build

namespace SearchQuery.Yaml

/-- The value of a text, and the problem if it has none. What is behind a wall is not read. -/
def readWalled (cs : List Char) (wall : Option Wall) : Except Problem Value := do
  match ← treeOf (wordsOf cs wall) with
  | some tree => build tree
  | none => return .null

/-- The value of a YAML text from a file; a text without a document is nothing. -/
def read (file text : String) : Except Fault Value :=
  let (cs, fault) := readablePart file text.toList
  let wall := fault.map fun fault => ({ index := cs.length, fault } : Wall)
  (readWalled cs wall).mapError (Problem.toFault file)

end SearchQuery.Yaml
