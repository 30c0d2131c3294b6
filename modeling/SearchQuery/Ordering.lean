-- Sort columns: a text such as `year DESC, title`, a map from columns to directions, or a
-- list of columns become an ordered map from columns to directions.
import SearchQuery.Entries
import SearchQuery.Fault
import SearchQuery.Text.Case
import SearchQuery.Text.Split
import SearchQuery.Value.Convert

namespace SearchQuery

/-- Columns in order of priority, each with its direction. -/
abbrev Columns := List (String × Direction)

/-- A letter without regard to case; the long s is an s. -/
def foldedLetter (c : Char) : Char := if c == 'ſ' then 's' else c.toLower

/-- The word is `asc` or `desc` in any case. -/
def isDirectionWord (word : List Char) : Bool :=
  let folded := word.map foldedLetter
  folded == ['a', 's', 'c'] || folded == ['d', 'e', 's', 'c']

/-- The direction of a word that was found to be one; the long s has no small form of its
own, so a word with it is none after all. -/
def directionOfWord (word : List Char) : Except Fault Direction :=
  let small := word.map Char.toLower
  if small == ['a', 's', 'c'] then .ok .ascending
  else if small == ['d', 'e', 's', 'c'] then .ok .descending
  else .error (.unknownDirection (String.ofList small))

/-- One column of an order text without blanks around it: a column on one line, blanks and
a direction word, or else a column as a whole. -/
def readColumn (part : List Char) : Except Fault (String × Direction) :=
  let (column, word) := Text.lastWord part
  if isDirectionWord word && !column.isEmpty && !column.contains '\n' then
    (directionOfWord word).map fun d => (String.ofList column, d)
  else .ok (String.ofList part, .ascending)

/-- The parts of an order text between commas, without blanks around them and without the
empty ones. -/
def orderParts (s : String) : List (List Char) :=
  ((Text.splitAll ',' s.toList).map (Text.trimBy Text.isBlank)).filter (!·.isEmpty)

namespace Columns

/-- The columns of an order text. -/
def ofText (s : String) : Except Fault Columns := do
  return Entries.ofList (← (orderParts s).mapM readColumn)

/-- The direction that a value in a map of columns means: everything that is not
descending is ascending. -/
def directionOf : Value → Direction
  | .direction d => d
  | v =>
    match v.text? with
    | some s => if Text.lower (Text.strip s) == "desc" then .descending else .ascending
    | none => .ascending

/-- Columns without a direction. -/
def ascending (names : List String) : Columns :=
  Entries.ofList (names.map fun name => (name, Direction.ascending))

/-- The columns that a value names. A number in a name must be one that can be written. -/
def ofValue (v : Value) : Except Fault Columns :=
  if !v.isTruthy then .ok []
  else match v.text? with
    | some s => ofText s
    | none =>
      match v with
      | .map entries =>
        if Value.anyOverlong (Entries.keys entries) then .error (.tooManyDigits none)
        else .ok (Entries.ofList (entries.map fun (k, d) => (k.display, directionOf d)))
      | v => do
        let names ← v.members
        if Value.anyOverlong names then throw (.tooManyDigits none)
        return ascending (names.map Value.display)

/-- The columns as an engine gets them, each with whether it ascends. -/
def pushed (columns : Columns) : List (String × Bool) :=
  columns.map fun (name, d) => (name, d != .descending)

end Columns

/-- The direction of a value that should be one already: descending if it is the bare word
for that, else ascending. -/
def Direction.ofWord (v : Value) : Direction :=
  if v.text? == some Direction.descending.name then .descending else .ascending

end SearchQuery
