-- Values turned into numbers, lists and maps, with a fault for every value that cannot be.
import SearchQuery.Decimal.Read
import SearchQuery.Entries
import SearchQuery.Fault
import SearchQuery.Value.Equality
import SearchQuery.Value.Text

namespace SearchQuery.Value

/-- What a value holds, one after the other: the keys of a map, the characters of a text,
the numbers of bytes, the parts of a condition with their names. -/
def members (v : Value) : Except Fault (List Value) :=
  match v.text?, v with
  | some s, _ => .ok (s.toList.map fun c => .text (String.singleton c))
  | none, .list items | none, .tuple items | none, .set items | none, .frozenSet items =>
    .ok items
  | none, .map entries => .ok (Entries.keys entries)
  | none, .bytes b => .ok (b.map fun byte => .int byte.toNat)
  | none, .condition c => .ok (namedParts c)
  | none, other => .error (.notIterable other.typeName)

/-- The pair at one place of a list that is to be a map. -/
def pairAt (place : Nat) (v : Value) : Except Fault (Value × Value) :=
  match v.members with
  | .error _ => .error (.notASequence place)
  | .ok [key, value] =>
    match key.unhashable? with
    | some type => .error (.unhashable type)
    | none => .ok (key, value)
  | .ok parts => .error (.notAPair place parts.length)

/-- A map, or the map that a list of pairs amounts to. -/
def toEntries : Value → Except Fault (List (Value × Value))
  | .map entries => .ok entries
  | v => do
    let items ← v.members
    let pairs ← items.zipIdx.mapM fun (item, place) => pairAt place item
    return Entries.ofList pairs

/-- The characters of a value that is read as a number: a text, or bytes one by one. -/
def numeral? (v : Value) : Option (List Char) :=
  match v.text?, v with
  | some s, _ => some (Decimal.plainDigits s.toList)
  | none, .bytes b =>
    some (b.map fun byte => if byte.toNat < 128 then Char.ofNat byte.toNat else '?')
  | none, _ => none

/-- The longest piece of a text that is quoted as no whole number. -/
def quoteLimit : Nat := 200

/-- A value in quotes, cut off. Bytes are cut off before they are put in quotes too. -/
def quotedPiece (v : Value) : String :=
  let piece : Value := match v with
    | .bytes b => .bytes (b.take quoteLimit)
    | _ => v
  String.ofList (piece.shown.toList.take quoteLimit)

/-- A whole number; a fraction is cut off. -/
def toInt (v : Value) : Except Fault Int :=
  match v with
  | .bool b => .ok (if b then 1 else 0)
  | .int n => .ok n
  | .float x =>
    match Decimal.parts x, Decimal.truncated? x with
    | _, some n => .ok n
    | .nan, none => .error .integerOfNan
    | _, none => .error .integerOfInfinity
  | _ =>
    match numeral? v with
    | none => .error (.noNumber .integer v.typeName)
    | some cs =>
      match Decimal.readPlainInt cs with
      | .ok n => .ok n
      | .error (.tooLong n) => .error (.tooManyDigits (some n))
      | .error .invalid =>
        .error (.notAnInteger 10 v.quotedPiece)

/-- A floating-point number. -/
def toFloat (v : Value) : Except Fault Float :=
  match v with
  | .bool b => .ok (if b then 1 else 0)
  | .float x => .ok x
  | .int n =>
    match Decimal.ofInt? n with
    | some x => .ok x
    | none => .error .tooLargeForFloat
  | _ =>
    match numeral? v with
    | none => .error (.noNumber .real v.typeName)
    | some cs =>
      match Decimal.readPlainFloat? cs with
      | some x => .ok x
      | none => .error (.notAFloat v.shown)

/-- The value of a key in a value that should be a map. -/
def get? (v : Value) (key : String) : Except Fault (Option Value) :=
  match v with
  | .map entries => .ok (field? key entries)
  | other => .error (.noMember other.typeName "get")

/-- In a map with texts as keys, the value of a key is that of the name. -/
theorem get?_ofFields (fields : List (String × Value)) (key : String) :
    (ofFields fields).get? key = .ok (fields.lookup key) :=
  congrArg Except.ok (field?_ofFields key fields)

/-- The value of a key, or another one if the map has no such key. -/
def getD (v : Value) (key : String) (default : Value) : Except Fault Value :=
  (v.get? key).map (·.getD default)

@[simp]
theorem getD_map (entries : List (Value × Value)) (key : String) (default : Value) :
    (map entries).getD key default = .ok ((field? key entries).getD default) := rfl

end SearchQuery.Value
