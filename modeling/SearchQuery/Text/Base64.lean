-- Bytes written as letters: a letter holds six bits, so four letters hold three bytes. Equals
-- signs fill up the last four; characters that are no letters are passed over.
import SearchQuery.Text.Quoted

namespace SearchQuery.Text.Base64

/-- Why a text holds no bytes. -/
inductive Problem where
  /-- Some characters in a row are not ASCII. -/
  | notAscii (first : Char) (place count : Nat)
  /-- One letter is left, the last one of so many. -/
  | letterLeft (letters : Nat)
  /-- The last four letters are not filled up. -/
  | unfilled
  deriving DecidableEq, Repr

/-- The problem in words. -/
def Problem.text : Problem → String
  | .notAscii first place count =>
    "failed to convert base64 data into ascii: 'ascii' codec can't encode " ++
      (if count == 1 then
        "character '" ++ String.ofList (numbered first.toNat) ++ "' in position " ++ toString place
      else "characters in position " ++ toString place ++ "-" ++ toString (place + count - 1)) ++
      ": ordinal not in range(128)"
  | .letterLeft letters =>
    "failed to decode base64 data: Invalid base64-encoded string: number of data characters (" ++
      toString letters ++ ") cannot be 1 more than a multiple of 4"
  | .unfilled => "failed to decode base64 data: Incorrect padding"

/-- The bits of a letter. -/
def letter? (c : Char) : Option Nat :=
  if 'A' ≤ c && c ≤ 'Z' then some (c.toNat - 65)
  else if 'a' ≤ c && c ≤ 'z' then some (c.toNat - 71)
  else if c.isDigit then some (c.toNat + 4)
  else if c == '+' then some 62
  else if c == '/' then some 63
  else none

/-- The letters of a text behind `count` letters and `signs` equals signs, and whether equals
signs end them. Those before the second letter of four do not count. -/
def letters (count signs : Nat) : List Char → List Nat × Bool
  | [] => ([], false)
  | c :: rest =>
    if c == '=' then
      if count % 4 < 2 then letters count signs rest
      else if 3 ≤ count % 4 + signs then ([], true)
      else letters count (signs + 1) rest
    else match letter? c with
      | none => letters count signs rest
      | some n =>
        let (more, ended) := letters (count + 1) 0 rest
        (n :: more, ended)

/-- The bytes of letters. Bits that do not make a whole byte are left out. -/
def bytesOf : List Nat → List UInt8
  | a :: b :: c :: d :: rest =>
    UInt8.ofNat (a * 4 + b / 16) :: UInt8.ofNat (b % 16 * 16 + c / 4) ::
      UInt8.ofNat (c % 4 * 64 + d) :: bytesOf rest
  | [a, b, c] => [UInt8.ofNat (a * 4 + b / 16), UInt8.ofNat (b % 16 * 16 + c / 4)]
  | [a, b] => [UInt8.ofNat (a * 4 + b / 16)]
  | [_] | [] => []

/-- The bytes that a text holds. -/
def decode (s : String) : Except Problem (List UInt8) :=
  let cs := s.toList
  let plain := cs.takeWhile (·.toNat < 128)
  match cs.drop plain.length with
  | first :: rest =>
    let row := first :: rest.takeWhile (128 ≤ ·.toNat)
    .error (.notAscii first plain.length row.length)
  | [] =>
    let (ns, ended) := letters 0 0 cs
    if ended || ns.length % 4 == 0 then .ok (bytesOf ns)
    else if ns.length % 4 == 1 then .error (.letterLeft ns.length)
    else .error .unfilled

example : (decode "aGV5IQ==").toOption = some [104, 101, 121, 33] := by decide +kernel

end SearchQuery.Text.Base64
