-- Small letters stay small. What a text becomes in small letters has no letter that would
-- change again, and so a piece of it is a small word already if it is one in small letters.
import SearchQuery.Text.Case

namespace SearchQuery.Text

/-- Only a letter of ASCII becomes nothing but letters of ASCII, and only if it stays. -/
def IsSettled (c : Char) : Prop := (∀ d ∈ lowerChar c, d.toNat < 128) → lowerChar c = [c]

/-- Neither the place of a capital of ASCII nor that of the sign for Kelvin, which becomes one. -/
def IsFree (n : Nat) : Prop := (n < 65 ∨ 90 < n) ∧ n ≠ 8490

theorem lowerRanges_leave_ascii : ∀ r ∈ lowerRanges, r.first = 8490 ∧ r.last = 8490 ∨
    128 ≤ r.first + r.shift ∧
      (r.last + r.shift < 0xD800 ∨ 0xE000 ≤ r.first + r.shift ∧ r.last + r.shift < 0x110000) := by
  decide +kernel

theorem lowerRanges_end_free : ∀ r ∈ lowerRanges, 90 < r.first + r.shift ∧
    (r.last + r.shift < 8490 ∨ 8490 < r.first + r.shift) := by
  decide +kernel

theorem bounds_of_shifted? {r : CaseRange} {n m : Nat} (h : r.shifted? n = some m) :
    r.first ≤ n ∧ n ≤ r.last ∧ m = Int.toNat (n + r.shift) := by
  unfold CaseRange.shifted? at h
  split at h
  · next hrange =>
    simp only [Bool.and_eq_true, decide_eq_true_eq] at hrange
    exact ⟨hrange.1.1, hrange.1.2, (Option.some.inj h).symm⟩
  · cases h

/-- A letter outside ASCII becomes an `i` with a dot above, or a letter a range away, or stays. -/
theorem lowerChar_cases {c : Char} (hc : 128 ≤ c.toNat) :
    lowerChar c = ['i', Char.ofNat 775] ∨
      (∃ r ∈ lowerRanges, ∃ m, r.shifted? c.toNat = some m ∧ lowerChar c = [Char.ofNat m]) ∨
      lowerChar c = [c] := by
  have hascii : ¬ c.toNat < 128 := by omega
  unfold lowerChar recased
  rw [if_neg hascii]
  split
  · next letters hletters =>
    simp only [lowerExpansions, List.lookup_cons, List.lookup_nil] at hletters
    split at hletters <;> cases hletters
    exact Or.inl rfl
  · split
    · next m hm =>
      obtain ⟨r, hr, hshift⟩ := List.exists_of_findSome?_eq_some hm
      exact Or.inr (Or.inl ⟨r, hr, m, hshift, rfl⟩)
    · exact Or.inr (Or.inr rfl)

theorem toNat_ofNat_of_valid {m : Nat} (h : m < 0xD800 ∨ 0xE000 ≤ m ∧ m < 0x110000) :
    (Char.ofNat m).toNat = m := by
  have hvalid : m.isValidChar := by
    rcases h with h | ⟨hlow, hhigh⟩
    · exact Or.inl h
    · exact Or.inr ⟨by omega, hhigh⟩
  rw [Char.ofNat, dif_pos hvalid]
  rfl

theorem toNat_ofNat_cases (m : Nat) : (Char.ofNat m).toNat = m ∨ (Char.ofNat m).toNat = 0 := by
  by_cases hvalid : m.isValidChar
  · rw [Char.ofNat, dif_pos hvalid]
    exact Or.inl rfl
  · rw [Char.ofNat, dif_neg hvalid]
    exact Or.inr rfl

theorem isSettled_of_isFree {c : Char} (h : IsFree c.toNat) : IsSettled c := by
  intro hall
  by_cases hc : c.toNat < 128
  · have hascii : ∀ n < 128, n < 65 ∨ 90 < n → lowerChar (Char.ofNat n) = [Char.ofNat n] := by
      decide
    simpa using hascii c.toNat hc h.1
  · obtain hdotted | ⟨r, hr, m, hshift, hm⟩ | hstays := lowerChar_cases (by omega : 128 ≤ c.toNat)
    · rw [hdotted] at hall
      exact absurd (hall (Char.ofNat 775) (by simp)) (by decide)
    · obtain ⟨hfirst, hlast, rfl⟩ := bounds_of_shifted? hshift
      have hfree := h.2
      rw [hm] at hall
      have hsmall := hall _ List.mem_cons_self
      obtain ⟨hkelvin, hkelvin'⟩ | ⟨hlow, hvalid⟩ := lowerRanges_leave_ascii r hr
      · omega
      · rw [toNat_ofNat_of_valid (by omega)] at hsmall
        omega
    · exact hstays

/-- What letters become is free of letters that become something else. -/
theorem isSettled_of_mem_lowerChar {c d : Char} (hd : d ∈ lowerChar c) : IsSettled d := by
  by_cases hc : c.toNat < 128
  · have hascii : ∀ n < 128, (lowerChar (Char.ofNat n)).all fun d => lowerChar d == [d] := by
      decide
    have hstays := List.all_eq_true.mp (hascii c.toNat hc) d (by rwa [Char.ofNat_toNat])
    exact fun _ => by simpa using hstays
  · obtain hdotted | ⟨r, hr, m, hshift, hm⟩ | hstays := lowerChar_cases (by omega : 128 ≤ c.toNat)
    · rw [hdotted] at hd
      apply isSettled_of_isFree
      obtain rfl | rfl : d = 'i' ∨ d = Char.ofNat 775 := by simpa using hd
      · exact ⟨by decide, by decide⟩
      · exact ⟨by decide, by decide⟩
    · rw [hm, List.mem_singleton] at hd
      subst hd
      obtain ⟨hfirst, hlast, rfl⟩ := bounds_of_shifted? hshift
      have hends := lowerRanges_end_free r hr
      apply isSettled_of_isFree
      obtain heq | heq := toNat_ofNat_cases (Int.toNat (c.toNat + r.shift))
      all_goals
        rw [IsFree, heq]
        omega
    · rw [hstays, List.mem_singleton] at hd
      subst hd
      exact fun _ => hstays

theorem isSettled_of_mem_lowerBehind {before cs : List Char} :
    ∀ d ∈ lowerBehind before cs, IsSettled d := by
  induction cs generalizing before with
  | nil => simp [lowerBehind]
  | cons c cs ih =>
    intro d hd
    rw [lowerBehind] at hd
    obtain hd | hd := List.mem_append.mp hd
    · split at hd
      · obtain rfl | rfl : d = 'ς' ∨ d = 'σ' := by
          split at hd
          · exact Or.inl (List.mem_singleton.mp hd)
          · exact Or.inr (List.mem_singleton.mp hd)
        · exact isSettled_of_isFree ⟨by decide, by decide⟩
        · exact isSettled_of_isFree ⟨by decide, by decide⟩
      · exact isSettled_of_mem_lowerChar hd
    · exact ih d hd

theorem lowerBehind_of_isSettled {before cs : List Char} (hcs : ∀ c ∈ cs, IsSettled c)
    (hascii : ∀ d ∈ lowerBehind before cs, d.toNat < 128) : lowerBehind before cs = cs := by
  induction cs generalizing before with
  | nil => rfl
  | cons c cs ih =>
    rw [List.forall_mem_cons] at hcs
    rw [lowerBehind, List.forall_mem_append] at hascii
    rw [lowerBehind, ih hcs.2 hascii.2]
    have hsigma : ¬ (c == 'Σ') = true := fun hsigma => by
      have hsmall := hascii.1
      rw [if_pos hsigma] at hsmall
      split at hsmall
      · exact absurd (hsmall 'ς' List.mem_cons_self) (by decide)
      · exact absurd (hsmall 'σ' List.mem_cons_self) (by decide)
    rw [if_neg hsigma] at hascii ⊢
    rw [hcs.1 hascii.1]
    rfl

/-- A piece of a text in small letters that is a word of ASCII in small letters is that word
already. -/
theorem lower_of_settled {s word : String} (hs : ∀ c ∈ s.toList, IsSettled c)
    (hword : ∀ d ∈ word.toList, d.toNat < 128) (h : lower s = word) : s = word := by
  have hbehind : lowerBehind [] s.toList = word.toList := by
    rw [← h, lower, String.toList_ofList]
  rw [← String.ofList_toList (s := s), ← lowerBehind_of_isSettled hs (hbehind ▸ hword), hbehind,
    String.ofList_toList]

end SearchQuery.Text
