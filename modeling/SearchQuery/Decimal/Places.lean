-- Numbers written with a given number of digits: after the point, or in all. A half goes to
-- the even neighbour.
import SearchQuery.Decimal.Shortest

namespace SearchQuery.Decimal

/-- A number that is not negative, as a fraction. -/
structure Fraction where
  num : Nat
  den : Nat

/-- `m * 2 ^ q` as a fraction. -/
def fractionOf (m : Nat) (q : Int) : Fraction := ⟨m * twoTo q.toNat, twoTo (-q).toNat⟩

namespace Fraction

/-- The whole number nearest to the fraction times a power of ten. -/
def rounded (f : Fraction) (power : Int) : Nat :=
  roundHalfEven (f.num * tenTo power.toNat) (f.den * tenTo (-power).toNat)

/-- The power of ten of the first digit; zero has the power zero. -/
def magnitude (f : Fraction) : Int :=
  if f.num == 0 then 0
  else ({ value := f.num, low := 0, high := 0, unit := f.den, closed := true } : Interval).exponent

/-- The first digits of a fraction and the power of ten of the first one. -/
def leading (f : Fraction) (digits : Nat) : List Char × Int :=
  let e := f.magnitude
  let n := f.rounded (digits - 1 - e)
  let (n, e) := if n == tenTo digits then (tenTo (digits - 1), e + 1) else (n, e)
  let text := Nat.toDigits 10 n
  (List.replicate (digits - text.length) '0' ++ text, e)

end Fraction

/-- A point between digits; without digits after it, it stands only if asked for. -/
def pointed (keep : Bool) (whole fraction : List Char) : List Char :=
  if fraction.isEmpty && !keep then whole else whole ++ '.' :: fraction

/-- A fraction with so many digits after the point. -/
def fixedText (keep : Bool) (places : Nat) (f : Fraction) : List Char :=
  let text := Nat.toDigits 10 (f.rounded places)
  let text := List.replicate (places + 1 - text.length) '0' ++ text
  let whole := text.length - places
  pointed keep (text.take whole) (text.drop whole)

/-- Digits with one before the point, and an exponent of at least two digits. -/
def exponentText (keep : Bool) (digits : List Char) (e : Int) : List Char :=
  let power := Nat.toDigits 10 e.natAbs
  pointed keep (digits.take 1) (digits.drop 1) ++ 'e' :: (if e < 0 then '-' else '+') ::
    (List.replicate (2 - power.length) '0' ++ power)

/-- Digits without zeros at the end. -/
def trimZeros (digits : List Char) : List Char :=
  (digits.reverse.dropWhile (· == '0')).reverse

/-- A fraction with so many digits in all. The exponent is written if it is below -4 or the
digits do not reach the point. Zeros at the end stay only if asked for. -/
def generalText (keep : Bool) (digits : Nat) (f : Fraction) : List Char :=
  let digits := max digits 1
  let (text, e) := f.leading digits
  let kept (cs : List Char) := if keep then cs else trimZeros cs
  if e < -4 || (digits : Int) ≤ e then
    exponentText keep (text.take 1 ++ kept (text.drop 1)) e
  else if e < 0 then
    pointed keep ['0'] (kept (List.replicate ((-e).toNat - 1) '0' ++ text))
  else
    let whole := e.toNat + 1
    pointed keep (text.take whole) (kept (text.drop whole))

end SearchQuery.Decimal
