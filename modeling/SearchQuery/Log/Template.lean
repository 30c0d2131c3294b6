-- Messages with places for values, as in `found %d of %s`. A place tells how its value is
-- written: in words, as a number, how wide. A message whose places and values do not fit
-- cannot be written at all; the fault tells the first misfit.
import SearchQuery.Decimal.Places
import SearchQuery.Value.Convert

namespace SearchQuery.Log

/-- A width or a number of digits: written out, or taken from the values. -/
inductive Size where
  | number (n : Nat)
  | fromValues
  deriving DecidableEq, Repr

/-- The key of a value between brackets. -/
inductive Key where
  | key (name : String)
  /-- The bracket is never closed. -/
  | unclosed
  deriving DecidableEq, Repr

/-- A place for a value. -/
structure Slot where
  /-- The key of the value, if values come by name. -/
  key : Option Key := none
  left : Bool := false
  plus : Bool := false
  blank : Bool := false
  /-- The form of a number is marked: `0x` for hexadecimal digits, a point always. -/
  marked : Bool := false
  zeros : Bool := false
  width : Option Size := none
  precision : Option Size := none
  /-- The letter for the form, none if the message ends before it. -/
  form : Option Char
  /-- Where in the message the letter stands. -/
  place : Nat := 0
  deriving DecidableEq, Repr

/-- A piece of a message. -/
inductive Piece where
  | char (c : Char)
  | slot (s : Slot)
  deriving DecidableEq, Repr

/-! ## Reading a message -/

/-- A key between brackets, after the first one; brackets inside it come in pairs. -/
def readKey? : Nat → List Char → Option (List Char × List Char)
  | _, [] => none
  | depth, c :: rest =>
    if c == ')' && depth == 0 then some ([], rest)
    else
      let depth := if c == '(' then depth + 1 else if c == ')' then depth - 1 else depth
      (readKey? depth rest).map fun (key, tail) => (c :: key, tail)

/-- A width or a number of digits at the front. -/
def readSize (cs : List Char) : Option Size × List Char :=
  match cs with
  | '*' :: rest => (some .fromValues, rest)
  | _ =>
    let (digits, rest) := Decimal.spanDigits cs
    if digits.isEmpty then (none, cs) else (some (.number (Decimal.digitsValue digits)), rest)

/-- Digits after a point; a point alone asks for none. -/
def readPrecision (cs : List Char) : Option Size × List Char :=
  match cs with
  | '.' :: rest =>
    let (size, tail) := readSize rest
    (some (size.getD (.number 0)), tail)
  | _ => (none, cs)

def isFlag (c : Char) : Bool := c == '-' || c == '+' || c == ' ' || c == '#' || c == '0'

/-- The key of a place after its percent sign, and the rest. -/
def readSlotKey (cs : List Char) : Option Key × List Char :=
  match cs with
  | '(' :: rest =>
    match readKey? 0 rest with
    | some (key, tail) => (some (.key (String.ofList key)), tail)
    | none => (some .unclosed, [])
  | _ => (none, cs)

/-- A place after its percent sign, and the rest; `total` is the length of the message. -/
def readSlot (total : Nat) (cs : List Char) : Slot × List Char :=
  let (key, cs) := readSlotKey cs
  let flags := cs.takeWhile isFlag
  let (width, cs) := readSize (cs.drop flags.length)
  let (precision, cs) := readPrecision cs
  let cs := match cs with
    | c :: rest => if c == 'h' || c == 'l' || c == 'L' then rest else cs
    | [] => []
  ({ key, left := flags.contains '-', plus := flags.contains '+', blank := flags.contains ' ',
     marked := flags.contains '#', zeros := flags.contains '0', width, precision,
     form := cs.head?, place := total - cs.length }, cs.drop 1)

/-- The pieces of a message of the given length. Two percent signs stand for one. -/
def readPieces (total : Nat) : Nat → List Char → List Piece
  | 0, _ => []
  | _, [] => []
  | fuel + 1, '%' :: '%' :: rest => .char '%' :: readPieces total fuel rest
  | fuel + 1, c :: rest =>
    if c == '%' then
      let (slot, tail) := readSlot total rest
      .slot slot :: readPieces total fuel tail
    else .char c :: readPieces total fuel rest

/-! ## Writing a value -/

/-- A number in parts: its sign, the mark of its form, and its digits. -/
structure Numeral where
  negative : Bool
  mark : List Char := []
  digits : List Char

/-- The text, filled up with blanks to a width. -/
def padded (left : Bool) (width : Nat) (cs : List Char) : List Char :=
  let fill := List.replicate (width - cs.length) ' '
  if left then cs ++ fill else fill ++ cs

/-- A number with its sign, filled up to a width. -/
def Numeral.text (n : Numeral) (s : Slot) (left : Bool) (width : Nat) : List Char :=
  let sign : List Char :=
    if n.negative then ['-'] else if s.plus then ['+'] else if s.blank then [' '] else []
  let front := sign ++ n.mark
  if s.zeros && !left then
    front ++ List.replicate (width - front.length - n.digits.length) '0' ++ n.digits
  else padded left width (front ++ n.digits)

/-- The number has digits in a base other than ten. -/
def isBased (form : Char) : Bool := form == 'x' || form == 'X' || form == 'o'

/-- The whole number of a value for a place; other bases take no fractions, but numbers of any
length. -/
def wholeFor (form : Char) (v : Value) : Except Fault Int :=
  match v, isBased form with
  | .bool b, _ => .ok (if b then 1 else 0)
  | .int n, true => .ok n
  | .int n, false => if Decimal.isOverlong n then .error (.tooManyDigits none) else .ok n
  | .float x, false => (Value.float x).toInt
  | v, true => .error (.misfit (.numberExpected form "an integer" v.typeName))
  | v, false => .error (.misfit (.numberExpected form "a real number" v.typeName))

def wholeNumeral (s : Slot) (form : Char) (precision : Option Nat) (v : Value) :
    Except Fault Numeral :=
  (wholeFor form v).map fun (n : Int) =>
    let (base, mark) : Nat × List Char :=
      if form == 'x' then (16, ['0', 'x'])
      else if form == 'X' then (16, ['0', 'X'])
      else if form == 'o' then (8, ['0', 'o'])
      else (10, [])
    let digits := Nat.toDigits base n.natAbs
    let digits := if form == 'X' then digits.map Char.toUpper else digits
    { negative := n < 0, mark := if s.marked then mark else [],
      digits := List.replicate (precision.getD 0 - digits.length) '0' ++ digits }

/-- The floating-point number of a value. -/
def realFor (v : Value) : Except Fault Float :=
  match v with
  | .bool _ | .int _ | .float _ => v.toFloat
  | _ => .error (.misfit (.realExpected v.typeName))

def realDigits (s : Slot) (form : Char) (precision : Nat) (f : Decimal.Fraction) : List Char :=
  match form.toLower with
  | 'e' =>
    let (digits, e) := f.leading (precision + 1)
    Decimal.exponentText s.marked digits e
  | 'f' => Decimal.fixedText s.marked precision f
  | _ => Decimal.generalText s.marked precision f

def realNumeral (s : Slot) (form : Char) (precision : Option Nat) (v : Value) :
    Except Fault Numeral :=
  (realFor v).map fun x =>
    let (negative, digits) : Bool × List Char := match Decimal.parts x with
      | .nan => (false, ['n', 'a', 'n'])
      | .infinite negative => (negative, ['i', 'n', 'f'])
      | .finite negative m q =>
        (negative, realDigits s form (precision.getD 6) (Decimal.fractionOf m q))
    { negative, digits := if form.isUpper then digits.map Char.toUpper else digits }

/-- The text with every character outside ASCII by its number. -/
def plainAscii (s : String) : List Char :=
  s.toList.flatMap fun c => if c.toNat < 128 then [c] else Text.numbered (Text.code c)

/-- A single character, given as such or by its number. -/
def charFor (v : Value) : Except Fault (List Char) :=
  match v.text?, v with
  | some s, _ => if s.length == 1 then .ok s.toList else .error (.misfit .characterExpected)
  | none, .bool b => .ok [Char.ofNat (if b then 1 else 0)]
  | none, .int n =>
    if 0 ≤ n && n < 0x110000 then .ok [Text.ofCode n.toNat]
    else .error (.misfit .characterOutOfRange)
  | none, _ => .error (.misfit .characterExpected)

/-- A value at a place. -/
def written (s : Slot) (form : Char) (left : Bool) (width : Nat) (precision : Option Nat)
    (v : Value) : Except Fault (List Char) :=
  let placed (cs : List Char) :=
    padded left width (match precision with
      | some n => cs.take n
      | none => cs)
  if form == 's' then (v.inWords Value.display).map fun text => placed text.toList
  else if form == 'r' then (v.inWords Value.shown).map fun text => placed text.toList
  else if form == 'a' then (v.inWords Value.shown).map fun text => placed (plainAscii text)
  else if form == 'c' then (charFor v).map (padded left width)
  else if form == 'd' || form == 'i' || form == 'u' || isBased form then
    (wholeNumeral s form precision v).map (·.text s left width)
  else if "eEfFgG".toList.contains form then
    (realNumeral s form precision v).map (·.text s left width)
  else .error (.misfit (.unknownForm form s.place))

/-! ## Filling a message -/

/-- The values that are left, and what holds values by name if something does. -/
structure Supply where
  left : List Value
  named : Option Value := none

/-- A single value. A map gives values by name; so would lists and bytes, but for their keys. -/
def Supply.single (v : Value) : Supply :=
  match v with
  | .map _ | .list _ | .bytes _ => { left := [v], named := some v }
  | _ => { left := [v] }

/-- Values one after the other. A single map that is not empty gives values by name. -/
def Supply.ofValues : List Value → Supply
  | [.map (entry :: more)] => .single (.map (entry :: more))
  | vs => { left := vs }

/-- The next value. -/
def Supply.next (s : Supply) : Except Fault (Value × Supply) :=
  match s.left with
  | v :: rest => .ok (v, { s with left := rest })
  | [] => .error (.misfit .tooFewValues)

/-- The value of a key. -/
def Supply.byName (s : Supply) : Key → Except Fault Value
  | .key name =>
    match s.named with
    | some (.map entries) =>
      match Value.field? name entries with
      | some v => .ok v
      | none => .error (.noKey (Text.quoted name))
    | some (.list _) => .error (.partsByNumber "list")
    | some _ => .error (.partsByNumber "byte")
    | none => .error (.misfit .mapExpected)
  | .unclosed => .error (.misfit (if s.named.isSome then .brokenKey else .mapExpected))

/-- A kind of size: its bounds, and the words for one that is beyond them. -/
structure SizeKind where
  bound : Nat
  /-- The bound for a size that is written out. -/
  tooBig : Misfit
  /-- The bound for a size from the values. -/
  outOfRange : Misfit

/-- The number of characters to fill up to. -/
def widthKind : SizeKind :=
  { bound := Decimal.twoTo 63 - 1, tooBig := .widthTooBig, outOfRange := .sizeOutOfRange "ssize_t" }

/-- The number of digits. -/
def precisionKind : SizeKind :=
  { bound := Decimal.twoTo 31 - 1, tooBig := .digitsTooMany, outOfRange := .sizeOutOfRange "int" }

/-- A size as a number. -/
def Supply.size (s : Supply) (kind : SizeKind) : Option Size → Except Fault (Option Int × Supply)
  | none => .ok (none, s)
  | some (.number n) => if n ≤ kind.bound then .ok (some n, s) else .error (.misfit kind.tooBig)
  | some .fromValues => do
    let (v, s) ← s.next
    match v with
    | .int n =>
      if -(kind.bound : Int) - 1 ≤ n && n ≤ kind.bound then .ok (some n, s)
      else .error (.misfit kind.outOfRange)
    | .bool b => .ok (some (if b then 1 else 0), s)
    | _ => .error (.misfit .sizeExpected)

/-- A place with its value; a negative width asks for the left end. -/
def fillSlot (s : Slot) (supply : Supply) : Except Fault (List Char × Supply) := do
  let supply : Supply ← match s.key with
    | none => pure supply
    | some key => do
      let v ← supply.byName key
      pure ({ supply with left := [v] } : Supply)
  let (width, supply) ← supply.size widthKind s.width
  let (precision, supply) ← supply.size precisionKind s.precision
  match s.form with
  | none => .error (.misfit .brokenPlace)
  | some form =>
    let (v, supply) ← supply.next
    let width := width.getD 0
    let text ← written s form (s.left || width < 0) width.natAbs (precision.map Int.toNat) v
    return (text, supply)

/-- The text of pieces with values. No value may be left over, unless they come by name. -/
def fillPieces : List Piece → Supply → Except Fault (List Char)
  | [], supply =>
    if supply.left.isEmpty || supply.named.isSome then .ok [] else .error (.misfit .valuesLeft)
  | .char c :: rest, supply => (fillPieces rest supply).map (c :: ·)
  | .slot s :: rest, supply => do
    let (text, supply) ← fillSlot s supply
    return text ++ (← fillPieces rest supply)

/-- A message with values in its places. -/
def fillFrom (supply : Supply) (template : String) : Except Fault String := do
  let pieces := readPieces template.length (template.length + 1) template.toList
  return String.ofList (← fillPieces pieces supply)

/-- A message with its values. Without values its places are left as they are. -/
def fill (template : String) (values : List Value) : Except Fault String :=
  if values.isEmpty then .ok template else fillFrom (.ofValues values) template

/-! ## Filling an event -/

/-- The number of parts of a value. -/
def lengthOf (v : Value) : Except Fault Nat :=
  match v, v.members with
  | .condition _, _ | _, .error _ => .error (.noLength v.typeName)
  | _, .ok parts => .ok parts.length

/-- The only part of a value that has one. -/
def onlyPart (v : Value) : Except Fault (Option Value) :=
  match v with
  | .map entries =>
    match entries.lookup (.int 0) with
    | some part => .ok (some part)
    | none => .error (.noKey "0")
  | .set _ | .frozenSet _ => .error (.noParts v.typeName)
  | v => .ok (v.members.toOption.bind List.head?)

/-- The values that a detail gives for the places of an event: a single map in it gives them
by name. -/
def suppliedBy (v : Value) : Except Fault Value := do
  if (← lengthOf v) != 1 then return v
  match ← onlyPart v with
  | some (.map (entry :: more)) => return .map (entry :: more)
  | _ => return v

/-- An event with values in its places. -/
def fillEvent (event : Value) (given : Value) : Except Fault Value := do
  let supplied ← suppliedBy given
  match event.text?, event with
  | some template, _ =>
    let supply : Supply := match supplied with
      | .tuple vs => { left := vs }
      | v => .single v
    return .text (← fillFrom supply template)
  | none, .null => .error (.noKey (Text.quoted "event"))
  | none, event => .error (.noMessage event.typeName supplied.typeName)

end SearchQuery.Log
