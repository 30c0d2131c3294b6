-- The value of a tree. Entries under the merging key belong to the map around them, which
-- may have its own entries in their place. What is wrong with a tree is told level by level:
-- a map or a list is looked at before what it holds.
import SearchQuery.Yaml.Tree

namespace SearchQuery.Yaml

/-- The entry takes over the entries of other maps. -/
def isMerge (key : Node) : Bool := key.tag == .merge

/-! ## Texts -/

mutual
/-- The text of a part, which a map holds under the standard key; the kind and the place of
what is no text. -/
def textOf : Node → Except (Kind × Mark) String
  | .scalar _ text _ => .ok text
  | .list _ _ start => .error (.list, start)
  | .map _ es start => (standardText? es).getD (.error (.map, start))
  | .loop kind start => .error (kind, start)
/-- The text under the standard key. -/
def standardText? : List (Node × Node) → Option (Except (Kind × Mark) String)
  | [] => none
  | (key, value) :: rest =>
    if key.tag == .standard then some (textOf value) else standardText? rest
end

/-! ## Values -/

/-- The value of the text of a part; without one it is nothing. -/
def plainValue (tag : Tag) (n : Node) : Value :=
  match textOf n with
  | .ok text => (scalarValue tag text n.start).toOption.getD .null
  | .error _ => .null

/-- The tag of a key. The standard key is a mere text. -/
def keyTag (key : Node) : Tag := if key.tag == .standard then .text else key.tag

/-- The value of a key. -/
def keyValue (key : Node) : Value := plainValue (keyTag key) key

mutual
/-- The value of a part. -/
def valueOf : Node → Value
  | .scalar tag text start => plainValue tag (.scalar tag text start)
  | .list tag items _ =>
    .list (if tag == .ordered || tag == .pairs then pairsOf items else valuesOf items)
  | .map tag es start =>
    match tag with
    | .map => .map (Entries.ofList (takenOver es ++ own es))
    | .set => .set (Entries.keys (Entries.ofList (takenOver es ++ own es)))
    | tag => plainValue tag (.map tag es start)
  | .loop kind _ => if kind == .list then .list [] else .map []
/-- The values of the items of a list. -/
def valuesOf : List Node → List Value
  | [] => []
  | n :: rest => valueOf n :: valuesOf rest
/-- The pairs of a list of maps. -/
def pairsOf : List Node → List Value
  | [] => []
  | .map _ es _ :: rest => .tuple (sidesOf es) :: pairsOf rest
  | _ :: rest => pairsOf rest
/-- The two sides of each entry. -/
def sidesOf : List (Node × Node) → List Value
  | [] => []
  | (key, value) :: rest => valueOf key :: valueOf value :: sidesOf rest
/-- The entries of a map that are its own. -/
def own : List (Node × Node) → List (Value × Value)
  | [] => []
  | (key, value) :: rest =>
    if isMerge key then own rest
    else (keyValue key, valueOf value) :: own rest
/-- The entries that a map takes over from others. -/
def takenOver : List (Node × Node) → List (Value × Value)
  | [] => []
  | (key, value) :: rest =>
    if isMerge key then takenFrom value ++ takenOver rest else takenOver rest
/-- The entries that are taken over from a map, or from several maps. -/
def takenFrom : Node → List (Value × Value)
  | .map _ es _ => takenOver es ++ own es
  | .list _ items _ => takenFromAll items
  | .scalar .. | .loop .. => []
/-- The entries that are taken over from several maps. The first map has the last word. -/
def takenFromAll : List Node → List (Value × Value)
  | [] => []
  | n :: rest => takenFromAll rest ++ takenFrom n
end

/-! ## What is wrong -/

/-- What is wrong, and on which level. -/
abbrev Finding := Nat × Problem

/-- A part of one kind where another one is wanted. -/
def wrongKind (wanted found : Kind) (mark : Mark) : Problem :=
  .inValue ("expected a " ++ wanted.name ++ " node, but found " ++ found.name) mark

/-- What is wrong with a part of a list of pairs that starts somewhere. -/
def wrongPairs (tag : Tag) (start : Mark) (text : String) (mark : Mark) : Problem :=
  let noun := if tag == .ordered then "an ordered map" else "pairs"
  .told .value (some ("while constructing " ++ noun, some start)) text mark

/-- What is wrong with a part that should have the value of a text. A date is never written as
a map. -/
def textFindings (level : Nat) (tag : Tag) (n : Node) : List Finding :=
  match textOf n with
  | .error (kind, mark) => [(level, wrongKind .scalar kind mark)]
  | .ok text =>
    if tag == .moment && n.kind == .map then [(level, .value (.noTextToMatch "list"))]
    else match scalarValue tag text n.start with
      | .error p => [(level, p)]
      | .ok _ => []

/-- What is wrong with a part whose kind is not the one that its tag tells. What the tags of
lists and maps ask for is looked at one level deeper. -/
def tagFindings (level : Nat) (tag : Tag) (n : Node) : List Finding :=
  match tag with
  | .list => [(level + 1, wrongKind .list n.kind n.start)]
  | .map | .set => [(level + 1, wrongKind .map n.kind n.start)]
  | .ordered | .pairs =>
    [(level + 1,
      wrongPairs tag n.start ("expected a sequence, but found " ++ n.kind.name) n.start)]
  | .merge | .standard | .other _ =>
    [(level, .inValue ("could not determine a constructor for the tag " ++ Text.quoted tag.name)
      n.start)]
  | .null | .bool | .int | .float | .moment | .binary | .text => textFindings level tag n

/-- What is wrong with a map that starts somewhere. -/
def wrongMap (start : Mark) (text : String) (mark : Mark) : Problem :=
  .told .value (some ("while constructing a mapping", some start)) text mark

/-- What is wrong with a key of a map. Lists, maps and sets are no keys. -/
def keyFindings (level : Nat) (start : Mark) (key : Node) : List Finding :=
  match keyTag key with
  | .list | .map | .set | .ordered | .pairs =>
    [(level, wrongMap start "found unhashable key" key.start)]
  | tag => tagFindings level tag key

/-- Something else than a map where maps are merged. -/
def wrongMerge (start : Mark) (wanted : String) (n : Node) : Problem :=
  wrongMap start ("expected a " ++ wanted ++ " for merging, but found " ++ n.kind.name) n.start

mutual
/-- What is wrong with the merging in a map. -/
def mergeFindings (level : Nat) (start : Mark) : List (Node × Node) → List Finding
  | [] => []
  | (key, value) :: rest =>
    (if isMerge key then sourceFindings level start value else []) ++
      mergeFindings level start rest
/-- What is wrong with what a map takes entries over from. -/
def sourceFindings (level : Nat) (start : Mark) : Node → List Finding
  | .map _ es mark => mergeFindings level mark es
  | .list _ items _ => sourcesFindings level start items
  | .loop .. => []
  | n => [(level, wrongMerge start "mapping or list of mappings" n)]
/-- What is wrong with several parts that a map takes entries over from. -/
def sourcesFindings (level : Nat) (start : Mark) : List Node → List Finding
  | [] => []
  | .map _ es mark :: rest => mergeFindings level mark es ++ sourcesFindings level start rest
  | .loop .map _ :: rest => sourcesFindings level start rest
  | n :: rest => (level, wrongMerge start "mapping" n) :: sourcesFindings level start rest
end

mutual
/-- What is wrong with a part. -/
def findings (level : Nat) : Node → List Finding
  | .scalar tag text start => tagFindings level tag (.scalar tag text start)
  | .list tag items start =>
    match tag with
    | .list => itemFindings (level + 1) items
    | .ordered | .pairs => pairFindings (level + 1) tag start items
    | tag => tagFindings level tag (.list tag items start)
  | .map tag es start =>
    if tag == .map || tag == .set then
      mergeFindings (level + 1) start es ++ takenFindings (level + 1) start es ++
        ownFindings (level + 1) start es
    else tagFindings level tag (.map tag es start)
  | .loop .. => []
/-- What is wrong with a list of pairs. -/
def pairFindings (level : Nat) (tag : Tag) (start : Mark) : List Node → List Finding
  | [] => []
  | .map _ es mark :: rest =>
    (if es.length == 1 then sideFindings level es
      else [(level, wrongPairs tag start ("expected a single mapping item, but found " ++
        toString es.length ++ " items") mark)]) ++
      pairFindings level tag start rest
  | n :: rest =>
    (level, wrongPairs tag start ("expected a mapping of length 1, but found " ++ n.kind.name)
      n.start) :: pairFindings level tag start rest
/-- What is wrong with the two sides of entries. -/
def sideFindings (level : Nat) : List (Node × Node) → List Finding
  | [] => []
  | (key, value) :: rest => findings level key ++ findings level value ++ sideFindings level rest
/-- What is wrong with the items of a list. -/
def itemFindings (level : Nat) : List Node → List Finding
  | [] => []
  | n :: rest => findings level n ++ itemFindings level rest
/-- What is wrong with the own entries of a map. -/
def ownFindings (level : Nat) (start : Mark) : List (Node × Node) → List Finding
  | [] => []
  | (key, value) :: rest =>
    (if isMerge key then [] else keyFindings level start key ++ findings level value) ++
      ownFindings level start rest
/-- What is wrong with the entries that a map takes over. -/
def takenFindings (level : Nat) (start : Mark) : List (Node × Node) → List Finding
  | [] => []
  | (key, value) :: rest =>
    (if isMerge key then fromFindings level start value else []) ++ takenFindings level start rest
/-- What is wrong with the entries of the maps that are taken over. -/
def fromFindings (level : Nat) (start : Mark) : Node → List Finding
  | .map _ es _ => takenFindings level start es ++ ownFindings level start es
  | .list _ items _ => fromAllFindings level start items
  | .scalar .. | .loop .. => []
/-- What is wrong with the entries of several maps, those of the last one first. -/
def fromAllFindings (level : Nat) (start : Mark) : List Node → List Finding
  | [] => []
  | n :: rest => fromAllFindings level start rest ++ fromFindings level start n
end

/-- What is told: the first finding on the least level. -/
def firstFinding? (found : List Finding) : Option Problem :=
  (found.foldl (fun (best : Option Finding) f =>
    match best with
    | some b => if f.1 < b.1 then some f else some b
    | none => some f) none).map (·.2)

/-- The value of a tree, if nothing is wrong with it. -/
def build (tree : Node) : Except Problem Value :=
  match firstFinding? (findings 0 tree) with
  | some p => .error p
  | none => .ok (valueOf tree)

end SearchQuery.Yaml
