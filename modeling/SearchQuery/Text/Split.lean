-- Texts cut at a character, and the words at their ends.
import SearchQuery.Text.Blank

namespace SearchQuery.Text

/-- The pieces between the characters `mark`, the empty ones too. -/
def splitAll (mark : Char) : List Char → List (List Char)
  | [] => [[]]
  | c :: cs =>
    if c == mark then [] :: splitAll mark cs
    else match splitAll mark cs with
      | [] => [[c]]
      | piece :: pieces => (c :: piece) :: pieces

theorem splitAll_eq_splitOn (mark : Char) (cs : List Char) :
    splitAll mark cs = cs.splitOn mark := by
  induction cs with
  | nil => rfl
  | cons c cs ih =>
    rw [splitAll, ih, List.splitOn_cons_eq_if_modifyHead]
    congr 1
    cases hpieces : cs.splitOn mark with
    | nil => exact absurd hpieces (List.splitOn_ne_nil _ _)
    | cons piece pieces => rfl

theorem splitAll_joined (mark : Char) (cs ds : List Char) :
    splitAll mark (cs ++ mark :: ds) = splitAll mark cs ++ splitAll mark ds := by
  rw [splitAll_eq_splitOn, splitAll_eq_splitOn, splitAll_eq_splitOn,
    List.splitOn_append_cons_self]

theorem splitAll_ne_nil (mark : Char) (cs : List Char) : splitAll mark cs ≠ [] := by
  rw [splitAll_eq_splitOn]
  exact List.splitOn_ne_nil _ _

/-- The text before the last word and its blanks, and the last word. -/
def lastWord (cs : List Char) : List Char × List Char :=
  let back := cs.reverse
  let word := (back.takeWhile (!isBlank ·)).reverse
  let front := ((back.dropWhile (!isBlank ·)).dropWhile isBlank).reverse
  (front, word)

end SearchQuery.Text
