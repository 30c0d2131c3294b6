-- Capitals and small letters of whole texts. A letter may become several: the capital
-- form of the sharp s is two letters.
import SearchQuery.Text.CaseTable
import SearchQuery.Text.LetterTable

namespace SearchQuery.Text

/-- The code point that a letter of this range becomes, none for other letters. -/
def CaseRange.shifted? (r : CaseRange) (n : Nat) : Option Nat :=
  if r.first ≤ n && n ≤ r.last && (n - r.first) % r.step == 0 then
    some (Int.toNat (n + r.shift))
  else none

/-- Looks a letter outside ASCII up in a pair of tables. -/
def recased (ranges : List CaseRange) (expansions : List (Nat × List Nat)) (c : Char) :
    List Char :=
  match expansions.lookup c.toNat with
  | some letters => letters.map Char.ofNat
  | none =>
    match ranges.findSome? (·.shifted? c.toNat) with
    | some n => [Char.ofNat n]
    | none => [c]

/-- The capital form of one letter. -/
def upperChar (c : Char) : List Char :=
  if c.toNat < 128 then [c.toUpper] else recased upperRanges upperExpansions c

/-- The small form of one letter. -/
def lowerChar (c : Char) : List Char :=
  if c.toNat < 128 then [c.toLower] else recased lowerRanges lowerExpansions c

/-- The text in capitals. -/
def upper (s : String) : String := String.ofList (s.toList.flatMap upperChar)

/-- A place is at the end of a word: the nearest letter before it is close, and the next one
is not. `before` runs from the place backwards. -/
def endsWord (before after : List Char) : Bool :=
  (before.dropWhile isInnerMark).head?.any isSized &&
    !(after.dropWhile isInnerMark).head?.any isSized

/-- The small forms of letters behind those of `before`, the last one of which comes first.
The sigma at the end of a word has a form of its own. -/
def lowerBehind (before : List Char) : List Char → List Char
  | [] => []
  | c :: rest =>
    let small :=
      if c == 'Σ' then [if endsWord before rest then 'ς' else 'σ'] else lowerChar c
    small ++ lowerBehind (c :: before) rest

/-- The text in small letters. -/
def lower (s : String) : String := String.ofList (lowerBehind [] s.toList)

end SearchQuery.Text
