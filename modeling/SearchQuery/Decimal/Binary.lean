-- Floating-point numbers as exact fractions, and back: `parts` takes a number apart into
-- a whole number times a power of two, `nearest` finds the number closest to a fraction.

namespace SearchQuery.Decimal

/-- A power of two. -/
def twoTo (n : Nat) : Nat := Nat.pow 2 n

/-- A power of ten. -/
def tenTo (n : Nat) : Nat := Nat.pow 10 n

/-- What the bits of a floating-point number say. A finite one is `m * 2 ^ q`. -/
inductive Parts where
  | nan
  | infinite (negative : Bool)
  | finite (negative : Bool) (m : Nat) (q : Int)
  deriving DecidableEq, Repr

/-- Takes a number apart: one bit of sign, eleven of exponent, 52 of fraction. -/
def parts (x : Float) : Parts :=
  let bits : Nat := x.toBits.toNat
  let negative := bits / twoTo 63 == 1
  let exponent : Nat := bits / twoTo 52 % 2048
  let fraction : Nat := bits % twoTo 52
  if exponent == 2047 then
    if fraction == 0 then .infinite negative else .nan
  else if exponent == 0 then .finite negative fraction (-1074)
  else .finite negative (fraction + twoTo 52) ((exponent : Int) - (1075 : Int))

/-- `num / den` to the nearest whole number, a half to the even one. -/
def roundHalfEven (num den : Nat) : Nat :=
  let whole := num / den
  let rest := 2 * (num % den)
  if rest < den then whole
  else if den < rest then whole + 1
  else whole + whole % 2

/-- The least power of two that leaves a quotient below `2 ^ 53`, never below the finest
step of the format. -/
def scaleOf (num den : Nat) : Int :=
  let guess : Int := (num.log2 : Int) - (den.log2 : Int) - 53
  let fits (q : Int) : Bool :=
    if 0 ≤ q then num < twoTo 53 * den * twoTo q.toNat
    else num * twoTo (-q).toNat < twoTo 53 * den
  let q := if fits guess then guess else guess + 1
  max q (-1074)

/-- The bits of the number nearest to `num / den`; infinity beyond the largest one. -/
def nearestBits (num den : Nat) : Nat :=
  if num == 0 then 0 else
  let q := scaleOf num den
  let m :=
    if 0 ≤ q then roundHalfEven num (den * twoTo q.toNat)
    else roundHalfEven (num * twoTo (-q).toNat) den
  let (m, q) := if m == twoTo 53 then (twoTo 52, q + 1) else (m, q)
  if m < twoTo 52 then m
  else if 971 < q then 2047 * twoTo 52
  else (q + 1075).toNat * twoTo 52 + (m - twoTo 52)

/-- The number nearest to `num / den` with the given sign. -/
def nearest (negative : Bool) (num den : Nat) : Float :=
  Float.ofBits (UInt64.ofNat (nearestBits num den + if negative then twoTo 63 else 0))

/-- The number nearest to `m * 10 ^ e`. Exponents far outside the range of the format
are cut short, since they give zero or infinity anyway. -/
def ofScientific (negative : Bool) (m : Nat) (e : Int) : Float :=
  let magnitude : Int := e + (Nat.toDigits 10 m).length
  if m == 0 || magnitude < -400 then nearest negative 0 1
  else if 400 < magnitude then nearest negative (tenTo 400) 1
  else if 0 ≤ e then nearest negative (m * tenTo e.toNat) 1
  else nearest negative m (tenTo (-e).toNat)

/-- The number nearest to a whole number, none if that is infinity. -/
def ofInt? (n : Int) : Option Float :=
  let x := nearest (n < 0) n.natAbs 1
  match parts x with
  | .finite .. => some x
  | _ => none

/-- The whole number that is equal to a floating-point number. -/
def exactInt? (x : Float) : Option Int :=
  match parts x with
  | .finite negative m q =>
    let whole : Option Nat :=
      if 0 ≤ q then some (m * twoTo q.toNat)
      else if m % twoTo (-q).toNat == 0 then some (m / twoTo (-q).toNat)
      else none
    whole.map fun n => if negative then -(n : Int) else n
  | _ => none

/-- The whole part of a finite number, toward zero. -/
def truncated? (x : Float) : Option Int :=
  match parts x with
  | .finite negative m q =>
    let n := if 0 ≤ q then m * twoTo q.toNat else m / twoTo (-q).toNat
    some (if negative then -(n : Int) else n)
  | _ => none

/-- Zero of either sign. -/
def isZero (x : Float) : Bool :=
  match parts x with
  | .finite _ m _ => m == 0
  | _ => false

/-- Greater than zero; not-a-number is not. -/
def isPositive (x : Float) : Bool :=
  match parts x with
  | .finite negative m _ => !negative && m != 0
  | .infinite negative => !negative
  | .nan => false

end SearchQuery.Decimal
