-- Blank characters and the ends that they form. Three sets are in use: every blank of
-- the Unicode standard with the four separators below the space, the same without
-- those four, and the six blanks of ASCII.

namespace SearchQuery.Text

/-- The blanks: tab to carriage return, the four separators below the space, the space,
and the spaces outside ASCII. The zero-width space is none of them. -/
def isBlank (c : Char) : Bool :=
  let n := c.toNat
  (9 ≤ n && n ≤ 13) || (28 ≤ n && n ≤ 32) || n == 0x85 || n == 0xA0 || n == 0x1680 ||
  (0x2000 ≤ n && n ≤ 0x200A) || n == 0x2028 || n == 0x2029 || n == 0x202F || n == 0x205F ||
  n == 0x3000

/-- The blanks without the four separators below the space. -/
def isSpace (c : Char) : Bool :=
  isBlank c && !(28 ≤ c.toNat && c.toNat ≤ 31)

/-- The blanks of ASCII: tab to carriage return, and the space. -/
def isAsciiSpace (c : Char) : Bool :=
  (9 ≤ c.toNat && c.toNat ≤ 13) || c.toNat == 32

/-- Drops the characters with `p` from both ends. -/
def trimBy (p : Char → Bool) (cs : List Char) : List Char :=
  ((cs.dropWhile p).reverse.dropWhile p).reverse

/-- The text without blanks at its ends. -/
def strip (s : String) : String := String.ofList (trimBy isBlank s.toList)

/-- A text of blanks only; the empty text is one. -/
def allBlank (s : String) : Bool := s.toList.all isBlank

/-- The text without the characters `c` at its end. -/
def dropEnd (c : Char) (s : String) : String :=
  String.ofList ((s.toList.reverse.dropWhile (· == c)).reverse)

end SearchQuery.Text
