-- The tree of a condition: a piece of query text, a list of fields with their values, or
-- an operator with operands.

namespace SearchQuery

/-- The operators with rules of their own. -/
inductive Operator where
  | and | or | not | wild
  deriving DecidableEq, Repr

namespace Operator

/-- The word for an operator in conditions and query texts. -/
def name : Operator → String
  | .and => "AND"
  | .or => "OR"
  | .not => "NOT"
  | .wild => "WILD"

/-- The operator of a word; none for every other word, small letters too. -/
def ofName? (word : String) : Option Operator :=
  if word = "AND" then some .and
  else if word = "OR" then some .or
  else if word = "NOT" then some .not
  else if word = "WILD" then some .wild
  else none

theorem ofName?_name (o : Operator) : ofName? o.name = some o := by
  cases o <;> decide

theorem ofName?_eq_some_iff {word : String} {o : Operator} :
    ofName? word = some o ↔ word = o.name := by
  constructor
  · intro h
    unfold ofName? at h
    repeat' split at h
    all_goals cases h <;> assumption
  · rintro rfl
    exact ofName?_name o

end Operator

/-- What a field is asked for: nothing, one text, or any of several. -/
inductive FieldValue where
  | absent
  | one (text : String)
  | many (texts : List String)
  deriving DecidableEq, Repr

/-- A condition. -/
inductive Condition where
  /-- Query text, used as it is. -/
  | literal (text : String)
  /-- Fields and what they are asked for, in the order of writing. -/
  | fields (entries : List (String × FieldValue))
  /-- An operator word and its operands; the word may be none of the known ones. -/
  | compound (name : String) (operands : List Condition)
  deriving Repr

namespace Condition

/-- The condition that asks for nothing. -/
def nothing : Condition := .fields []

mutual
/-- Two conditions are built alike. -/
def same : Condition → Condition → Bool
  | .literal a, .literal b => a == b
  | .fields a, .fields b => a == b
  | .compound m as, .compound n bs => m == n && sameAll as bs
  | _, _ => false
/-- Two lists of conditions are built alike, place by place. -/
def sameAll : List Condition → List Condition → Bool
  | [], [] => true
  | a :: as, b :: bs => same a b && sameAll as bs
  | _, _ => false
end

end Condition

end SearchQuery
