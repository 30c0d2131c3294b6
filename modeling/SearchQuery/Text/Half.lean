-- Halves of pairs. A character above the first 65536 is written as a pair of units of sixteen
-- bits; half of a pair alone is no character, but a text may hold it. A text here keeps it as
-- the private character that lies a fixed way above it, so it cannot hold the 2048 private
-- characters there for themselves.

namespace SearchQuery.Text

/-- The number is that of the first half of a pair. -/
def isHighHalf (n : Nat) : Bool := 0xD800 ≤ n && n ≤ 0xDBFF

/-- The number is that of the second half of a pair. -/
def isLowHalf (n : Nat) : Bool := 0xDC00 ≤ n && n ≤ 0xDFFF

/-- The number is that of half of a pair. -/
def isHalf (n : Nat) : Bool := 0xD800 ≤ n && n ≤ 0xDFFF

/-- How far above its number a half is kept. -/
def halfShift : Nat := 0x100000

/-- What a text holds for a number: its character, or what a half is kept as. -/
def ofCode (n : Nat) : Char := Char.ofNat (if isHalf n then n + halfShift else n)

/-- The number of what a text holds. -/
def code (c : Char) : Nat :=
  if isHalf (c.toNat - halfShift) then c.toNat - halfShift else c.toNat

/-- The text holds half of a pair here. -/
def isHalfChar (c : Char) : Bool := isHalf (code c)

/-- Every number comes back from a text, but those that halves are kept under. -/
theorem code_ofCode {n : Nat} (h : n < 0x110000) (hfree : isHalf (n - halfShift) = false) :
    code (ofCode n) = n := by
  have htoNat (m : Nat) (hm : m.isValidChar) : (Char.ofNat m).toNat = m := by
    unfold Char.ofNat
    rw [dif_pos hm]
    rfl
  unfold ofCode code
  cases hhalf : isHalf n with
  | true =>
    have hvalid : (n + halfShift).isValidChar := by
      simp only [isHalf, Bool.and_eq_true, decide_eq_true_eq] at hhalf
      simp only [Nat.isValidChar, halfShift]
      omega
    rw [if_pos rfl, htoNat _ hvalid, Nat.add_sub_cancel, hhalf, if_pos rfl]
  | false =>
    have hvalid : n.isValidChar := by
      simp only [isHalf, Bool.and_eq_false_iff, decide_eq_false_iff_not] at hhalf
      simp only [Nat.isValidChar]
      omega
    rw [if_neg Bool.false_ne_true, htoNat _ hvalid, hfree, if_neg Bool.false_ne_true]

end SearchQuery.Text
