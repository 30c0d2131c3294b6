-- Decimal digits of all scripts, and digits of bases up to sixteen.

namespace SearchQuery.Text

/-- The code point of the digit zero of each script outside ASCII; the other nine digits
follow it. -/
def scriptZeros : List Nat := [
    1632, 1776, 1984, 2406, 2534, 2662, 2790, 2918, 3046, 3174, 3302, 3430, 3558, 3664, 3792,
    3872, 4160, 4240, 6112, 6160, 6470, 6608, 6784, 6800, 6992, 7088, 7232, 7248, 42528,
    43216, 43264, 43472, 43504, 43600, 44016, 65296, 66720, 68912, 69734, 69872, 69942, 70096,
    70384, 70736, 70864, 71248, 71360, 71472, 71904, 72016, 72784, 73040, 73120, 92768, 92864,
    93008, 120782, 120792, 120802, 120812, 120822, 123200, 123632, 125264, 130032]

/-- The value of an ASCII digit. -/
def asciiDigit? (c : Char) : Option Nat :=
  if c.isDigit then some (c.toNat - 48) else none

/-- The value of a decimal digit of any script. -/
def digit? (c : Char) : Option Nat :=
  if c.toNat < 128 then asciiDigit? c
  else scriptZeros.findSome? fun start =>
    if start ≤ c.toNat && c.toNat < start + 10 then some (c.toNat - start) else none

/-- The value of a digit in bases up to sixteen. -/
def hexDigit? (c : Char) : Option Nat :=
  if c.isDigit then some (c.toNat - 48)
  else if 'a' ≤ c && c ≤ 'f' then some (c.toNat - 87)
  else if 'A' ≤ c && c ≤ 'F' then some (c.toNat - 55)
  else none

/-- A number read from its digits, the first one heaviest. -/
def ofDigits (base : Nat) (digits : List Nat) : Nat :=
  digits.foldl (fun n d => base * n + d) 0

/-- One small hexadecimal digit. -/
def hexChar (n : Nat) : Char :=
  if n < 10 then Char.ofNat (48 + n) else Char.ofNat (87 + n)

/-- The last `width` hexadecimal digits of a number. -/
def hexText : Nat → Nat → List Char
  | 0, _ => []
  | width + 1, n => hexText width (n / 16) ++ [hexChar (n % 16)]

/-- A number with at least `width` decimal digits. -/
def zeroPadded (width n : Nat) : String :=
  let digits := Nat.toDigits 10 n
  String.ofList (List.replicate (width - digits.length) '0' ++ digits)

end SearchQuery.Text
