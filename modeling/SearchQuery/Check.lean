-- Checks that data from outside fits its place. A check may convert on the way: digits in a
-- text are a number where a number is wanted. All issues are reported, in order.
import SearchQuery.Decimal.Read
import SearchQuery.Entries
import SearchQuery.Fault
import SearchQuery.Text.Case
import SearchQuery.Value.Text

namespace SearchQuery

/-- The outcome of a check. -/
inductive Checked (α : Type) where
  | ok (value : α)
  | issues (found : List Issue)
  /-- The check could not go on. -/
  | abort (fault : Fault)

namespace Checked

/-- Puts two outcomes together: the issues of both count, and the first check that could
not go on ends the matter. -/
def both {α β : Type} : Checked α → Checked β → Checked (α × β)
  | .ok a, .ok b => .ok (a, b)
  | .abort f, _ => .abort f
  | _, .abort f => .abort f
  | .issues is, .issues js => .issues (is ++ js)
  | .issues is, .ok _ => .issues is
  | .ok _, .issues js => .issues js

def map {α β : Type} (f : α → β) : Checked α → Checked β
  | .ok a => .ok (f a)
  | .issues is => .issues is
  | .abort fault => .abort fault

instance : Applicative Checked where
  pure := .ok
  map := map
  seq f a := (both f (a ())).map fun (f, a) => f a

/-- Goes on with a value that passed. -/
def andThen {α β : Type} (next : α → Checked β) : Checked α → Checked β
  | .ok a => next a
  | .issues is => .issues is
  | .abort fault => .abort fault

/-- One issue at the place itself. -/
def flawed {α : Type} (flaw : Flaw) : Checked α := .issues [⟨[], flaw⟩]

/-- The outcome seen from outside, with one more step on the way to every issue. -/
def inside {α : Type} (step : String) : Checked α → Checked α
  | .issues is => .issues (is.map fun i => { i with path := step :: i.path })
  | other => other

/-- All of several outcomes. -/
def all {α : Type} : List (Checked α) → Checked (List α)
  | [] => .ok []
  | c :: cs => (both c (all cs)).map fun (a, as) => a :: as

/-- The value, or the fault that the issues amount to. -/
def toExcept {α : Type} : Checked α → Except Fault α
  | .ok a => .ok a
  | .issues is => .error (.invalid is)
  | .abort fault => .error fault

/-! A check that is put together passes exactly if each of its parts does. -/

variable {α β : Type}

@[simp]
theorem both_eq_ok {ca : Checked α} {cb : Checked β} {p : α × β} :
    both ca cb = .ok p ↔ ca = .ok p.1 ∧ cb = .ok p.2 := by
  cases ca <;> cases cb <;> simp [both, Prod.ext_iff]

@[simp]
theorem map_eq_ok {f : α → β} {c : Checked α} {b : β} :
    c.map f = .ok b ↔ ∃ a, c = .ok a ∧ f a = b := by
  cases c <;> simp [map]

@[simp]
theorem fmap_eq_ok {f : α → β} {c : Checked α} {b : β} :
    f <$> c = .ok b ↔ ∃ a, c = .ok a ∧ f a = b := map_eq_ok

@[simp]
theorem seq_eq_ok {cf : Checked (α → β)} {c : Checked α} {b : β} :
    cf <*> c = .ok b ↔ ∃ f a, cf = .ok f ∧ c = .ok a ∧ f a = b := by
  show (both cf c).map _ = .ok b ↔ _
  simp [and_assoc]

@[simp]
theorem inside_eq_ok {step : String} {c : Checked α} {a : α} :
    c.inside step = .ok a ↔ c = .ok a := by
  cases c <;> simp [inside]

@[simp]
theorem all_eq_ok {cs : List (Checked α)} {as : List α} :
    all cs = .ok as ↔ cs = as.map .ok := by
  induction cs generalizing as with
  | nil => cases as <;> simp [all]
  | cons c cs ih => cases as <;> simp [all, ih]

@[simp]
theorem toExcept_eq_ok {c : Checked α} {a : α} : c.toExcept = .ok a ↔ c = .ok a := by
  cases c <;> simp [toExcept]

end Checked

/-- Bytes as text. -/
def textOfBytes? (b : List UInt8) : Option String := String.fromUTF8? ⟨b.toArray⟩

namespace Check

/-! ## Texts -/

/-- A text; bytes are decoded. -/
def text (v : Value) : Checked String :=
  match v.text?, v with
  | some s, _ => .ok s
  | none, .bytes b =>
    match textOfBytes? b with
    | some s => .ok s
    | none => .flawed .stringUnicode
  | none, _ => .flawed .stringType

/-- The text of a value that may be read as a number, none for other values and for bytes
that are no text. -/
def readable? (v : Value) : Option (Option String) :=
  match v.text?, v with
  | some s, _ => some (some s)
  | none, .bytes b => some (textOfBytes? b)
  | none, _ => none

/-! ## Numbers -/

/-- A whole number without anything that could be left out: a minus sign at most, and
digits that start with zero only if it is the single one. -/
def plainInt? (cs : List Char) : Option (Bool × List Char) :=
  let (negative, digits) := match cs with
    | '-' :: rest => (true, rest)
    | _ => (false, cs)
  let plain := digits == ['0'] || (digits.head?.any (· != '0') && digits.all Char.isDigit)
  if plain then some (negative, digits) else none

/-- The text behind zeros that count for nothing, of which `last` was read last. A `_` among
them counts for nothing either, and a minus sign may follow them. -/
def afterZeros? (last : Char) : List Char → Option (List Char)
  | [] => some [last]
  | c :: rest =>
    if c == '0' || c == '_' then afterZeros? c rest
    else if c == '.' then some (last :: c :: rest)
    else if c.isDigit || c == '-' then some (c :: rest)
    else none

/-- The text without zeros at its front that count for nothing, if a number starts there. -/
def dropZeros? (cs : List Char) : Option (List Char) :=
  match cs with
  | '0' :: rest => afterZeros? '0' rest
  | c :: _ => if c.isDigit || c == '-' then some cs else none
  | [] => none

/-- The text without a point that only zeros follow. -/
def dropFraction (cs : List Char) : List Char :=
  let whole := cs.takeWhile (· != '.')
  match cs.drop whole.length with
  | _ :: zeros => if zeros != [] && zeros.all (· == '0') then whole else cs
  | [] => cs

/-- Two `_` stand side by side. -/
def hasDoubleLine : List Char → Bool
  | '_' :: '_' :: _ => true
  | _ :: rest => hasDoubleLine rest
  | [] => false

/-- The text without its `_`, if each stands alone and none at an end. -/
def ungrouped? (cs : List Char) : Option (List Char) :=
  let atEnd := cs.head? == some '_' || cs.getLast? == some '_'
  if atEnd || !cs.contains '_' || hasDoubleLine cs then none else some (cs.filter (· != '_'))

/-- A whole number with what may be left out: blanks around it, a sign, zeros before and
behind, `_` between digits. -/
def looseInt? (cs : List Char) : Option (Bool × List Char) := do
  let trimmed := Text.trimBy Text.isSpace cs
  let (negative, body) ← match trimmed with
    | '+' :: '-' :: _ => none
    | '+' :: rest => some (false, rest)
    | '-' :: '-' :: _ => none
    | '-' :: rest => some (true, rest)
    | _ => some (false, trimmed)
  let whole := dropFraction (← dropZeros? body)
  let bare := (ungrouped? whole).getD whole
  plainInt? (if negative then '-' :: bare else bare)

/-- The number of digits and a sign. -/
def signed (negative : Bool) (digits : List Char) : Int :=
  let n : Int := Decimal.digitsValue digits
  if negative then -n else n

/-- A whole number in a text. Only of a plain one too many digits are told as such. -/
def intOfText (s : String) : Checked Int :=
  match plainInt? s.toList with
  | some (negative, digits) =>
    if Decimal.maxDigits < digits.length then .flawed .intParsingSize
    else .ok (signed negative digits)
  | none =>
    match looseInt? s.toList with
    | some (negative, digits) =>
      if Decimal.maxDigits < digits.length then .flawed .intParsing
      else .ok (signed negative digits)
    | none => .flawed .intParsing

/-- A floating-point number that is whole and not too large for 64 bits. -/
def intOfFloat (x : Float) : Checked Int :=
  match Decimal.parts x, Decimal.exactInt? x with
  | .finite .., some n => if n.natAbs < Decimal.twoTo 63 then .ok n else .flawed .intParsingSize
  | .finite .., none => .flawed .intFromFloat
  | _, _ => .flawed .finiteNumber

/-- A whole number. -/
def int (v : Value) : Checked Int :=
  match v with
  | .bool b => .ok (if b then 1 else 0)
  | .int n => .ok n
  | .float x => intOfFloat x
  | _ =>
    match readable? v with
    | some (some s) => intOfText s
    | some none => .flawed .intParsing
    | none => .flawed .intType

/-- A floating-point number in a text, with blanks around it or with `_` inside. -/
def floatOfText? (s : String) : Option Float :=
  match Decimal.readFloat? (Text.trimBy Text.isSpace s.toList) with
  | some x => some x
  | none => (ungrouped? s.toList).bind Decimal.readFloat?

/-- A floating-point number. -/
def float (v : Value) : Checked Float :=
  match v with
  | .bool b => .ok (if b then 1 else 0)
  | .float x => .ok x
  | .int n =>
    match Decimal.ofInt? n with
    | some x => .ok x
    | none => .flawed .floatType
  | _ =>
    match readable? v with
    | some found =>
      match found.bind floatOfText? with
      | some x => .ok x
      | none => .flawed .floatParsing
    | none => .flawed .floatType

/-- A floating-point number above zero. -/
def positive (v : Value) : Checked Float :=
  (float v).andThen fun x => if Decimal.isPositive x then .ok x else .flawed .greaterThan

/-! ## Yes and no -/

/-- The words for no and yes. -/
def boolOfText? (s : String) : Option Bool :=
  let word := String.ofList (s.toList.map Char.toLower)
  if ["0", "f", "n", "no", "off", "false"].contains word then some false
  else if ["1", "t", "y", "yes", "on", "true"].contains word then some true
  else none

/-- Zero and one as no and yes; a number of more than 64 bits is of the wrong type. -/
def boolOfInt (n : Int) : Checked Bool :=
  if n == 0 then .ok false
  else if n == 1 then .ok true
  else if -(Decimal.twoTo 63 : Int) ≤ n && n < (Decimal.twoTo 63 : Int) then .flawed .boolParsing
  else .flawed .boolType

/-- Yes or no. -/
def bool (v : Value) : Checked Bool :=
  match v with
  | .bool b => .ok b
  | .int n => boolOfInt n
  | .float x =>
    match intOfFloat x with
    | .ok n => boolOfInt n
    | _ => .flawed .boolType
  | _ =>
    match readable? v with
    | some found =>
      match found.bind boolOfText? with
      | some b => .ok b
      | none => .flawed .boolParsing
    | none => .flawed .boolType

/-! ## Values that hold others -/

/-- Nothing, or what the check takes. -/
def optional {α : Type} (check : Value → Checked α) : Value → Checked (Option α)
  | .null => .ok none
  | v => (check v).map some

/-- The members of a value that lists some in a row. -/
def sequence? : Value → Option (List Value)
  | .list items | .tuple items | .set items | .frozenSet items => some items
  | _ => none

/-- Members one by one, each at its place in the row. -/
def members {α : Type} (check : Value → Checked α) (items : List Value) :
    Checked (List α) :=
  .all (items.zipIdx.map fun (v, i) => (check v).inside (toString i))

theorem members_map {α : Type} {check : Value → Checked α} {f : α → Value} {as : List α}
    (h : ∀ a ∈ as, check (f a) = .ok a) : members check (as.map f) = .ok as := by
  rw [members, Checked.all_eq_ok]
  refine List.ext_getElem (by simp) fun i hi _ => ?_
  simp [h]

/-- A list. -/
def list {α : Type} (check : Value → Checked α) (v : Value) : Checked (List α) :=
  match sequence? v with
  | some items => members check items
  | none => .flawed .listType

/-- A pair. One member too many is told before anything about the members. -/
def pair {α β : Type} (first : Value → Checked α) (second : Value → Checked β)
    (v : Value) : Checked (α × β) :=
  match sequence? v with
  | some [] => .issues [⟨["0"], .missing⟩, ⟨["1"], .missing⟩]
  | some [a] => .both ((first a).inside "0") (.issues [⟨["1"], .missing⟩])
  | some [a, b] => .both ((first a).inside "0") ((second b).inside "1")
  | some _ => .flawed .tooLong
  | none => .flawed .tupleType

/-- A key as a step on the way to an issue. -/
def step : Value → String
  | .bool b => if b then "1" else "0"
  | v => match v.text? with
    | some s => s
    | none => v.shown

/-- An entry of a map with texts as keys. -/
def entry {α : Type} (check : Value → Checked α) : Value × Value → Checked (String × α)
  | (k, v) => .both ((text k).inside "[key]" |>.inside (step k)) ((check v).inside (step k))

/-- A map with texts as keys. -/
def dict {α : Type} (check : Value → Checked α) (v : Value) :
    Checked (List (String × α)) :=
  match v with
  | .map entries => (Checked.all (entries.map (entry check))).map Entries.ofList
  | _ => .flawed .dictType

/-- Any value at all. -/
def anything (v : Value) : Checked Value := .ok v

/-- Fields of any kind pass as they are, unless a name is there twice. -/
theorem dict_anything_ofFields {fields : List (String × Value)}
    (h : (Entries.keys fields).Nodup) : dict anything (.ofFields fields) = .ok fields := by
  have hentries : Checked.all ((fields.map fun field => (Value.text field.1, field.2)).map
      (entry anything)) = .ok fields := by
    rw [Checked.all_eq_ok, List.map_map]
    rfl
  have hkeys : (Entries.keys fields).Pairwise fun a b => (a == b) = false :=
    List.Pairwise.imp beq_false_of_ne h
  show (Checked.all _).map Entries.ofList = _
  rw [hentries, Checked.map, Entries.ofList_of_distinct hkeys]

/-! ## Fields -/

/-- A field with a value of its own if it is left out. -/
def field {α : Type} (name : String) (default : α) (check : Value → Checked α)
    (entries : List (Value × Value)) : Checked α :=
  match entries.findSome? fun (k, v) => if k.text? == some name then some v else none with
  | some v => (check v).inside name
  | none => .ok default

/-- A field that must be there. -/
def required {α : Type} (name : String) (check : Value → Checked α)
    (entries : List (Value × Value)) : Checked α :=
  match entries.findSome? fun (k, v) => if k.text? == some name then some v else none with
  | some v => (check v).inside name
  | none => .issues [⟨[name], .missing⟩]

/-- The entries of a map with named fields. -/
def fields (v : Value) : Checked (List (Value × Value)) :=
  match v with
  | .map entries => .ok entries
  | _ => .flawed .modelType

/-! ## Limits and offsets -/

/-- A limit or offset as a caller gives it: left open, a number, or a text. -/
inductive Bound where
  | unset
  | number (n : Int)
  | word (s : String)
  deriving DecidableEq, Repr

/-- A limit or offset as a value. -/
def Bound.toValue : Bound → Value
  | .unset => .null
  | .number n => .int n
  | .word s => .text s

/-- A limit or offset. A text stays a text; other values become numbers if they can, and
bytes that cannot become a text. -/
def bound (v : Value) : Checked Bound :=
  match v.text?, v with
  | some s, _ => .ok (.word s)
  | none, .null => .ok .unset
  | none, _ =>
    match int v with
    | .ok n => .ok (.number n)
    | asInt =>
      match text v with
      | .ok s => .ok (.word s)
      | asText =>
        (Checked.both (asInt.inside "int") (asText.inside "str")).map fun _ => .unset

end Check

end SearchQuery
