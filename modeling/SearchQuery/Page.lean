-- The window of results: how many and from where. A limit or an offset is a number or a
-- text of digits; what is neither has no effect, and without a limit the offset has none.
import SearchQuery.Decimal.Read
import SearchQuery.Engine.Request
import SearchQuery.Text.Quoted

namespace SearchQuery.Page

/-- The characters of a text that is digits only and not empty. -/
def digits? (v : Value) : Option String :=
  v.text?.filter fun s => s != "" && s.toList.all Char.isDigit

/-- The value is a limit that has an effect: a whole number from zero up, or digits. -/
def hasLimit : Value → Bool
  | .int n => 0 ≤ n
  | v => (digits? v).isSome

/-- The value is an offset that has an effect: a whole number above zero, or digits other
than a single zero. -/
def hasOffset : Value → Bool
  | .int n => 0 < n
  | v => match digits? v with
    | some s => s != "0"
    | none => false

/-- A text as a whole number. -/
def intOfText (s : String) : Except Fault Int :=
  match Decimal.readInt s with
  | .ok n => .ok n
  | .error .invalid => .error (.notAnInteger 10 (Text.quoted s))
  | .error (.tooLong n) => .error (.tooManyDigits (some n))

/-- The number of a limit or offset that has an effect. -/
def number : Value → Except Fault Int
  | .int n => .ok n
  | v => intOfText ((digits? v).getD "")

/-- The limit and offset that take effect, none without an effective limit. -/
def window? (limit offset : Value) : Except Fault (Option (Int × Int)) :=
  let offset := if hasOffset offset then offset else .int 0
  if !hasLimit limit then .ok none
  else do
    let l ← number limit
    let o ← number offset
    .ok (some (l, o))

/-- Sets the window of a request, if there is one. -/
def push (r : Request) : Option (Int × Int) → Request
  | none => r
  | some (limit, offset) => r.setLimit (.int limit) (.int offset)

/-- Reads the window of a limit and an offset and sets it on a request. A number that cannot be
read leaves the request as it is. -/
def apply (limit offset : Value) (r : Request) : Except Fault (Option (Int × Int)) × Request :=
  match window? limit offset with
  | .error fault => (.error fault, r)
  | .ok window => (.ok window, push r window)

end SearchQuery.Page
