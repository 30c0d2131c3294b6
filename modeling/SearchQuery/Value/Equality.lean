-- When two values are the same: numbers by what they denote, texts by their characters,
-- maps and sets whatever the order. It decides which keys of a map fall together.
import SearchQuery.Value

namespace SearchQuery.Value

/-- The whole number that a value counts as, no and yes being zero and one. -/
def wholeNumber? : Value → Option Int
  | .bool b => some (if b then 1 else 0)
  | .int n => some n
  | .float x => Decimal.exactInt? x
  | _ => none

/-- Two values that hold no others are the same. -/
def sameLeaf (a b : Value) : Bool :=
  match a.wholeNumber?, b.wholeNumber? with
  | some m, some n => m == n
  | none, none =>
    match a, b with
    | .null, .null => true
    | .float x, .float y => x == y
    | .bytes x, .bytes y => x == y
    | .condition x, .condition y => x.same y
    | .moment x, .moment y => x.same y
    | _, _ =>
      match a.text?, b.text? with
      | some s, some t => s == t
      | _, _ => false
  | _, _ => false

mutual
/-- Two values are the same. Not-a-number differs from itself. -/
def same : Value → Value → Bool
  | .list xs, b => match b with
    | .list ys => sameAll xs ys
    | _ => false
  | .tuple xs, b => match b with
    | .tuple ys => sameAll xs ys
    | _ => false
  | .map xs, b => match b with
    | .map ys => xs.length == ys.length && entriesWithin xs ys
    | _ => false
  | .set xs, b => match b with
    | .set ys | .frozenSet ys => xs.length == ys.length && within xs ys
    | _ => false
  | .frozenSet xs, b => match b with
    | .set ys | .frozenSet ys => xs.length == ys.length && within xs ys
    | _ => false
  | a, b => sameLeaf a b
/-- The values of two lists are the same, place by place. -/
def sameAll : List Value → List Value → Bool
  | [], ys => ys.isEmpty
  | x :: xs, ys => match ys with
    | [] => false
    | y :: ys => same x y && sameAll xs ys
/-- Every value of the first list is in the second. -/
def within : List Value → List Value → Bool
  | [], _ => true
  | x :: xs, ys => ys.any (same x ·) && within xs ys
/-- Every entry of the first map is in the second. -/
def entriesWithin : List (Value × Value) → List (Value × Value) → Bool
  | [], _ => true
  | (k, v) :: xs, ys =>
    ys.any (fun (l, w) => same k l && same v w) && entriesWithin xs ys
end

instance : BEq Value := ⟨same⟩

/-- Texts are the same value if they are the same text. -/
theorem text_beq_text (s t : String) : (Value.text s == Value.text t) = (s == t) := by
  show same (.text s) (.text t) = (s == t)
  simp [same, sameLeaf, wholeNumber?, text?]

mutual
/-- The type that keeps a value from being a key: a list, a map or a set, also inside a
tuple. -/
def unhashable? : Value → Option String
  | .list _ => some "list"
  | .map _ => some "dict"
  | .set _ => some "set"
  | .tuple items => firstUnhashable? items
  | _ => none
/-- The type of the first of several values that cannot be a key. -/
def firstUnhashable? : List Value → Option String
  | [] => none
  | v :: vs => match unhashable? v with
    | some type => some type
    | none => firstUnhashable? vs
end

/-- The value of a text key in a map. -/
def field? (name : String) (entries : List (Value × Value)) : Option Value :=
  entries.findSome? fun (k, v) => if k.text? == some name then some v else none

/-- Where all keys are texts, the value of a key is that of the name. -/
theorem field?_ofFields (name : String) (fields : List (String × Value)) :
    field? name (fields.map fun (k, v) => (.text k, v)) = fields.lookup name := by
  induction fields with
  | nil => rfl
  | cons field fields ih =>
    rw [List.map_cons, field?, List.findSome?_cons, ← field?, ih, List.lookup_cons]
    by_cases h : field.1 = name
    · simp [text?, h]
    · have hback : (name == field.1) = false := beq_false_of_ne (Ne.symm h)
      simp [text?, h, hback]

end SearchQuery.Value
