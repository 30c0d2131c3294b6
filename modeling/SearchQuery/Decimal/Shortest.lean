-- The shortest decimal digits that read back as a given floating-point number, and how
-- numbers are laid out with them.
import SearchQuery.Decimal.Binary
import SearchQuery.Text.Digit

namespace SearchQuery.Decimal

/-- A positive number and its rounding interval over one unit: `value / unit`, the
interval from `low / unit` to `high / unit`, ends included or not. -/
structure Interval where
  value : Nat
  low : Nat
  high : Nat
  unit : Nat
  closed : Bool

/-- The interval of the reals that round to `m * 2 ^ q`. Below a power of two the step is
half as wide, so the interval is shorter on that side. -/
def intervalOf (m : Nat) (q : Int) : Interval :=
  let below := if m == twoTo 52 && -1074 < q then 1 else 2
  let scale := twoTo (q - 2).toNat
  { value := 4 * m * scale, low := (4 * m - below) * scale, high := (4 * m + 2) * scale,
    unit := twoTo (2 - q).toNat, closed := m % 2 == 0 }

/-- The interval times `10 ^ (-k)`. -/
def Interval.shifted (i : Interval) (k : Int) : Interval :=
  let up := tenTo (-k).toNat
  { value := i.value * up, low := i.low * up, high := i.high * up,
    unit := i.unit * tenTo k.toNat, closed := i.closed }

/-- A whole number of units lies in the interval. -/
def Interval.holds (i : Interval) (d : Nat) : Bool :=
  if i.closed then i.low ≤ d * i.unit && d * i.unit ≤ i.high
  else i.low < d * i.unit && d * i.unit < i.high

/-- The whole number of units in the interval that is nearest to the value, of the two
next to it; a tie goes to the even one. -/
def Interval.pick? (i : Interval) : Option Nat :=
  let d := i.value / i.unit
  let rest := 2 * (i.value % i.unit)
  let nearer := if rest < i.unit || (rest == i.unit && d % 2 == 0) then d else d + 1
  let farther := if nearer == d then d + 1 else d
  if i.holds nearer && 0 < nearer then some nearer
  else if i.holds farther && 0 < farther then some farther
  else none

/-- The `e` with `10 ^ e ≤ value / unit < 10 ^ (e + 1)`. -/
def Interval.exponent (i : Interval) : Int :=
  let guess : Int := (((i.value.log2 : Int) - (i.unit.log2 : Int)) * 30103).fdiv 100000
  let reaches (e : Int) : Bool := i.unit * tenTo e.toNat ≤ i.value * tenTo (-e).toNat
  if !reaches guess then guess - 1
  else if reaches (guess + 1) then guess + 1
  else guess

/-- Tries one digit, two digits, and so on; `left` counts the tries that remain. -/
def Interval.search (i : Interval) (e : Int) : Nat → Nat → Nat × Int
  | 0, _ => (i.value / i.unit, 0)
  | left + 1, digits =>
    let k := e + 1 - digits
    match (i.shifted k).pick? with
    | some d => (d, k)
    | none => i.search e left (digits + 1)

/-- Decimal digits and the exponent of the first: `d₀.d₁d₂… * 10 ^ exponent`. -/
structure Digits where
  digits : List Char
  exponent : Int
  deriving DecidableEq, Repr

/-- The digits of `d * 10 ^ k` without zeros at the end. -/
def Digits.ofScaled (d : Nat) (k : Int) : Digits :=
  let all := Nat.toDigits 10 d
  let kept := (all.reverse.dropWhile (· == '0')).reverse
  { digits := if kept.isEmpty then ['0'] else kept, exponent := k + (all.length - 1 : Nat) }

/-- The fewest digits that read back as `m * 2 ^ q`. Seventeen are always enough. -/
def shortest (m : Nat) (q : Int) : Digits :=
  let i := intervalOf m q
  let (d, k) := i.search i.exponent 17 1
  Digits.ofScaled d k

/-- Digits with the point after the first `places` of them, filled up with zeros. -/
def positional (digits : List Char) (exponent : Int) : List Char :=
  if exponent < 0 then
    '0' :: '.' :: List.replicate ((-exponent).toNat - 1) '0' ++ digits
  else
    let places := exponent.toNat + 1
    let whole := digits.take places ++ List.replicate (places - digits.length) '0'
    let rest := digits.drop places
    whole ++ '.' :: (if rest.isEmpty then ['0'] else rest)

/-- Digits with one before the point and an exponent of at least two digits. -/
def scientific (digits : List Char) (exponent : Int) : List Char :=
  let power := Nat.toDigits 10 exponent.natAbs
  let mantissa :=
    match digits with
    | [] => []
    | [d] => [d]
    | d :: rest => d :: '.' :: rest
  mantissa ++ 'e' :: (if exponent < 0 then '-' else '+') ::
    (List.replicate (2 - power.length) '0' ++ power)

/-- Numbers from a ten-thousandth up to ten to the sixteenth are written with their point
in place, others with an exponent. -/
def laidOut (d : Digits) : List Char :=
  if -4 ≤ d.exponent && d.exponent < 16 then positional d.digits d.exponent
  else scientific d.digits d.exponent

/-- The text of a floating-point number. -/
def floatText (x : Float) : String :=
  match parts x with
  | .nan => "nan"
  | .infinite negative => if negative then "-inf" else "inf"
  | .finite negative m q =>
    let body := if m == 0 then ['0', '.', '0'] else laidOut (shortest m q)
    String.ofList (if negative then '-' :: body else body)

end SearchQuery.Decimal
