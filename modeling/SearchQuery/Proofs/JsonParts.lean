-- The grammar of JSON below its values: blanks, texts and numbers. Each part leads from the
-- characters that begin with it to those behind it. The reader reads just these parts.
import SearchQuery.Json.Reader

namespace SearchQuery.Json

variable {cs rest : List Char}

/-! ## Blanks -/

/-- Blanks, if any. -/
def Blanks (cs rest : List Char) : Prop := ∃ blanks, cs = blanks ++ rest ∧ ∀ c ∈ blanks, isBlank c

theorem blanks_skip (cs : List Char) : Blanks cs (skip cs) := by
  refine ⟨cs.takeWhile isBlank, List.takeWhile_append_dropWhile.symm, fun c hc => ?_⟩
  exact (List.all_eq_true.mp List.all_takeWhile) c hc

namespace Blanks

theorem trans {tail : List Char} (hfirst : Blanks cs tail) (hsecond : Blanks tail rest) :
    Blanks cs rest := by
  obtain ⟨blanks, rfl, hblanks⟩ := hfirst
  obtain ⟨more, rfl, hmore⟩ := hsecond
  refine ⟨blanks ++ more, (List.append_assoc ..).symm, fun c hc => ?_⟩
  rcases List.mem_append.mp hc with hc | hc
  · exact hblanks c hc
  · exact hmore c hc

theorem skip_eq (h : Blanks cs rest) : skip cs = skip rest := by
  obtain ⟨blanks, rfl, hblanks⟩ := h
  exact List.dropWhile_append_of_pos hblanks

theorem suffix (h : Blanks cs rest) : rest <:+ cs := by
  obtain ⟨blanks, rfl, -⟩ := h
  exact List.suffix_append _ _

end Blanks

/-! ## Texts -/

/-- The characters that can stand behind a backslash alone. -/
def escapes : List Char := ['"', '\\', '/', 'b', 'f', 'n', 'r', 't']

/-- A hexadecimal digit. -/
def IsHex (c : Char) : Prop := c.isDigit ∨ ('a' ≤ c ∧ c ≤ 'f') ∨ ('A' ≤ c ∧ c ≤ 'F')

/-- A text behind its opening quote, with its closing quote. -/
inductive IsText : List Char → List Char → Prop
  | close (rest : List Char) : IsText ('"' :: rest) rest
  | plain {c : Char} {cs rest : List Char} :
      c ≠ '"' → c ≠ '\\' → 32 ≤ c.toNat → IsText cs rest → IsText (c :: cs) rest
  | escape {c : Char} {cs rest : List Char} :
      c ∈ escapes → IsText cs rest → IsText ('\\' :: c :: cs) rest
  | unit {a b c d : Char} {cs rest : List Char} :
      IsHex a → IsHex b → IsHex c → IsHex d → IsText cs rest →
      IsText ('\\' :: 'u' :: a :: b :: c :: d :: cs) rest

theorem IsText.suffix (h : IsText cs rest) : rest <:+ cs := by
  induction h with
  | close rest => exact List.suffix_cons _ _
  | plain _ _ _ _ ih => exact ih.trans (List.suffix_cons _ _)
  | escape _ _ ih => exact ih.trans ⟨[_, _], rfl⟩
  | unit _ _ _ _ _ ih => exact ih.trans ⟨[_, _, _, _, _, _], rfl⟩

theorem escape?_isSome {c : Char} : (escape? c).isSome = true ↔ c ∈ escapes := by
  unfold escape? escapes
  split <;> simp_all

theorem hexDigit?_isSome {c : Char} : (Text.hexDigit? c).isSome = true ↔ IsHex c := by
  unfold Text.hexDigit? IsHex
  split
  · simp_all
  · split
    · simp_all
    · split <;> simp_all

theorem hexUnit?_isSome {a b c d : Char} :
    (hexUnit? [a, b, c, d]).isSome = true ↔ IsHex a ∧ IsHex b ∧ IsHex c ∧ IsHex d := by
  simp only [← hexDigit?_isSome, hexUnit?, Option.isSome_map, List.mapM_cons, List.mapM_nil]
  cases Text.hexDigit? a <;> cases Text.hexDigit? b <;> cases Text.hexDigit? c <;>
    cases Text.hexDigit? d <;> simp

theorem cons_of_take {a b : Char} (h : cs.take 2 = [a, b]) : cs = a :: b :: cs.drop 2 := by
  calc cs = cs.take 2 ++ cs.drop 2 := (List.take_append_drop 2 cs).symm
    _ = a :: b :: cs.drop 2 := by rw [h]; rfl

/-- The four digits of a unit at the front. -/
theorem exists_unit {digits : List Char} {n : Nat} (hlength : 4 ≤ digits.length)
    (h : hexUnit? (digits.take 4) = some n) :
    ∃ a b c d, (IsHex a ∧ IsHex b ∧ IsHex c ∧ IsHex d) ∧
      digits = a :: b :: c :: d :: digits.drop 4 := by
  match digits, hlength with
  | a :: b :: c :: d :: more, _ =>
    exact ⟨a, b, c, d, hexUnit?_isSome.mp (Option.isSome_of_eq_some h), rfl⟩

/-- What is read as one unit, or as a pair of them, is one or two units. -/
theorem readUnit_sound {digits : List Char} {char : Char} {used : Nat}
    (h : readUnit digits = .ok (char, used)) (hrest : IsText (digits.drop used) rest) :
    IsText ('\\' :: 'u' :: digits) rest := by
  unfold readUnit at h
  dsimp only at h
  split at h
  · cases h
  · rename_i hlength
    split at h
    · cases h
    · rename_i high hhigh
      obtain ⟨a, b, c, d, ⟨ha, hb, hc, hd⟩, hdigits⟩ := exists_unit (by omega) hhigh
      rw [hdigits]
      refine .unit ha hb hc hd ?_
      split at h
      · rename_i hpair
        simp only [Bool.and_eq_true, decide_eq_true_eq, beq_iff_eq] at hpair
        obtain ⟨⟨-, hmore⟩, hslash⟩ := hpair
        have hafter := cons_of_take hslash
        split at h
        · cases h
        · rename_i low hlow
          split at h
          · obtain ⟨a, b, c, d, ⟨ha, hb, hc, hd⟩, hsecond⟩ :=
              exists_unit (by rw [List.length_drop]; omega) hlow
            obtain ⟨-, rfl⟩ := Prod.mk.inj (Except.ok.inj h)
            rw [hafter, hsecond, List.drop_drop, List.drop_drop]
            exact .unit ha hb hc hd hrest
          · cases h
            exact hrest
      · cases h
        exact hrest

section

variable {c : Char}

theorem isText_quote (h : IsText ('"' :: cs) rest) : cs = rest := by
  cases h with
  | close => rfl
  | plain hquote => exact absurd rfl hquote

theorem isText_plain (hquote : c ≠ '"') (hslash : c ≠ '\\') (h : IsText (c :: cs) rest) :
    32 ≤ c.toNat ∧ IsText cs rest := by
  cases h with
  | close => exact absurd rfl hquote
  | plain _ _ hcontrol hrest => exact ⟨hcontrol, hrest⟩
  | escape | unit => exact absurd rfl hslash

theorem isText_escape (hletter : c ≠ 'u') (h : IsText ('\\' :: c :: cs) rest) :
    c ∈ escapes ∧ IsText cs rest := by
  cases h with
  | plain _ hslash => exact absurd rfl hslash
  | escape hc hrest => exact ⟨hc, hrest⟩
  | unit => exact absurd rfl hletter

theorem isText_unit (h : IsText ('\\' :: 'u' :: cs) rest) :
    ∃ a b c d tail, (IsHex a ∧ IsHex b ∧ IsHex c ∧ IsHex d) ∧ cs = a :: b :: c :: d :: tail ∧
      IsText tail rest := by
  cases h with
  | plain _ hslash => exact absurd rfl hslash
  | escape hc => exact absurd hc (by decide)
  | unit ha hb hc hd hrest => exact ⟨_, _, _, _, _, ⟨ha, hb, hc, hd⟩, rfl, hrest⟩

end

theorem IsText.length_pos (h : IsText cs rest) : 0 < cs.length := by
  cases h <;> simp

/-- Where a text has a unit, one is read, or a pair of them. -/
theorem readUnit_complete {digits : List Char} (h : IsText ('\\' :: 'u' :: digits) rest) :
    ∃ char used, readUnit digits = .ok (char, used) ∧ IsText (digits.drop used) rest := by
  obtain ⟨a, b, c, d, tail, hhex, rfl, htail⟩ := isText_unit h
  obtain ⟨high, hhigh⟩ := Option.isSome_iff_exists.mp (hexUnit?_isSome.mpr hhex)
  have hlength := htail.length_pos
  unfold readUnit
  simp only [List.take_succ_cons, List.take_zero, List.drop_succ_cons, List.drop_zero]
  rw [if_neg (by simp only [List.length_cons]; omega), hhigh]
  dsimp only
  split
  · rename_i hpair
    simp only [Bool.and_eq_true, decide_eq_true_eq, beq_iff_eq] at hpair
    have hslash := cons_of_take hpair.2
    obtain ⟨a', b', c', d', more, hhex', hdigits, hmore⟩ := isText_unit (hslash ▸ htail)
    obtain ⟨low, hlow⟩ := Option.isSome_iff_exists.mp (hexUnit?_isSome.mpr hhex')
    rw [hdigits]
    simp only [List.take_succ_cons, List.take_zero]
    rw [hlow]
    dsimp only
    split
    · refine ⟨_, _, rfl, ?_⟩
      rw [hslash, hdigits]
      exact hmore
    · exact ⟨_, _, rfl, htail⟩
  · exact ⟨_, _, rfl, htail⟩

theorem readText_sound {opening : Nat} {done cs out : List Char}
    (h : readText opening done cs = .ok (out, rest)) : IsText cs rest := by
  fun_induction readText opening done cs with
  | case1 => cases h
  | case2 done c tail hquote =>
    cases h
    rw [eq_of_beq hquote]
    exact .close _
  | case3 => cases h
  | case4 => cases h
  | case5 done c hquote hslash digits char used hunit ih =>
    rw [eq_of_beq hslash]
    exact readUnit_sound hunit (ih h)
  | case6 done c hquote hslash letter more hletter char hescape ih =>
    rw [eq_of_beq hslash]
    exact .escape (escape?_isSome.mp (by rw [hescape]; rfl)) (ih h)
  | case7 => cases h
  | case8 => cases h
  | case9 done c tail hquote hslash hcontrol ih =>
    exact .plain (by simpa using hquote) (by simpa using hslash) (by omega) (ih h)

theorem readText_complete (h : IsText cs rest) (opening : Nat) (done : List Char) :
    ∃ out, readText opening done cs = .ok (out, rest) := by
  fun_induction readText opening done cs with
  | case1 => cases h
  | case2 done c tail hquote =>
    rw [eq_of_beq hquote] at h
    rw [isText_quote h]
    exact ⟨_, rfl⟩
  | case3 done c hquote hslash =>
    rw [eq_of_beq hslash] at h
    cases h with
    | plain _ hslash => exact absurd rfl hslash
  | case4 done c hquote hslash digits stop hunit =>
    rw [eq_of_beq hslash] at h
    obtain ⟨char, used, hread, -⟩ := readUnit_complete h
    rw [hunit] at hread
    cases hread
  | case5 done c hquote hslash digits char used hunit ih =>
    rw [eq_of_beq hslash] at h
    obtain ⟨char, used, hread, hrest⟩ := readUnit_complete h
    rw [hunit] at hread
    cases hread
    exact ih hrest
  | case6 done c hquote hslash letter more hletter char hescape ih =>
    rw [eq_of_beq hslash] at h
    exact ih (isText_escape hletter h).2
  | case7 done c hquote hslash letter more hletter hescape =>
    rw [eq_of_beq hslash] at h
    have hsome := escape?_isSome.mpr (isText_escape hletter h).1
    rw [hescape] at hsome
    cases hsome
  | case8 done c tail hquote hslash hcontrol =>
    have := (isText_plain (by simpa using hquote) (by simpa using hslash) h).1
    omega
  | case9 done c tail hquote hslash hcontrol ih =>
    exact ih (isText_plain (by simpa using hquote) (by simpa using hslash) h).2

/-! ## Numbers -/

/-- A digit or more. -/
def IsDigits (cs : List Char) : Prop := cs ≠ [] ∧ ∀ c ∈ cs, c.isDigit

/-- A zero alone, or digits that begin with another one. -/
def IsWhole (cs : List Char) : Prop := cs = ['0'] ∨ IsDigits cs ∧ cs.head? ≠ some '0'

/-- A point with digits, if any. -/
def IsFraction (cs : List Char) : Prop := cs = [] ∨ ∃ digits, cs = '.' :: digits ∧ IsDigits digits

/-- An exponent, if any. -/
def IsExponent (cs : List Char) : Prop :=
  cs = [] ∨ ∃ e sign digits, cs = e :: (sign ++ digits) ∧ (e = 'e' ∨ e = 'E') ∧
    (sign = [] ∨ sign = ['+'] ∨ sign = ['-']) ∧ IsDigits digits

/-- A number at the front. -/
def IsNumber (cs rest : List Char) : Prop :=
  ∃ sign whole fraction exponent, cs = sign ++ whole ++ fraction ++ exponent ++ rest ∧
    (sign = [] ∨ sign = ['-']) ∧ IsWhole whole ∧ IsFraction fraction ∧ IsExponent exponent

/-- No digit is at the front. -/
def NoDigit (cs : List Char) : Prop := ∀ c ∈ cs.head?, c.isDigit = false

/-- What can stand behind a value: a blank, a mark that ends it, or nothing. -/
def Ends (cs : List Char) : Prop := ∀ c ∈ cs.head?, isBlank c ∨ c = ',' ∨ c = ']' ∨ c = '\x7d'

theorem spanDigits_append {digits : List Char} (hdigits : ∀ c ∈ digits, c.isDigit)
    (hrest : NoDigit rest) : Decimal.spanDigits (digits ++ rest) = (digits, rest) := by
  unfold Decimal.spanDigits
  rw [List.takeWhile_append_of_pos hdigits, List.dropWhile_append_of_pos hdigits]
  cases rest with
  | nil => rw [List.takeWhile_nil, List.dropWhile_nil, List.append_nil]
  | cons c rest =>
    have hc := hrest c rfl
    rw [List.takeWhile_cons_of_neg (by rw [hc]; decide),
      List.dropWhile_cons_of_neg (by rw [hc]; decide), List.append_nil]

theorem spanDigits_sound (cs : List Char) :
    cs = (Decimal.spanDigits cs).1 ++ (Decimal.spanDigits cs).2 ∧
      ∀ c ∈ (Decimal.spanDigits cs).1, c.isDigit :=
  ⟨List.takeWhile_append_dropWhile.symm, List.all_eq_true.mp List.all_takeWhile⟩

theorem spanWhole_sound (cs : List Char) :
    cs = (spanWhole cs).1 ++ (spanWhole cs).2 ∧
      ((spanWhole cs).1 ≠ [] → IsWhole (spanWhole cs).1) := by
  unfold spanWhole
  split
  · exact ⟨rfl, fun _ => .inl rfl⟩
  · rename_i hzero
    obtain ⟨happend, hdigits⟩ := spanDigits_sound cs
    refine ⟨happend, fun hne => .inr ⟨⟨hne, hdigits⟩, fun hhead => ?_⟩⟩
    obtain ⟨tail, htail⟩ := List.head?_eq_some_iff.mp hhead
    exact hzero _ (happend.trans (by rw [htail]; rfl))

theorem spanFraction_sound (cs : List Char) :
    cs = (spanFraction cs).1 ++ (spanFraction cs).2 ∧ IsFraction (spanFraction cs).1 := by
  unfold spanFraction
  split
  · rename_i rest
    obtain ⟨happend, hdigits⟩ := spanDigits_sound rest
    dsimp only
    split
    · exact ⟨rfl, .inl rfl⟩
    · rename_i hne
      exact ⟨congrArg ('.' :: ·) happend, .inr ⟨_, rfl, by simpa using hne, hdigits⟩⟩
  · exact ⟨rfl, .inl rfl⟩

/-- The sign of an exponent at the front, if any. -/
def spanSign : List Char → List Char × List Char
  | '+' :: rest => (['+'], rest)
  | '-' :: rest => (['-'], rest)
  | cs => ([], cs)

theorem spanSign_sound (cs : List Char) :
    cs = (spanSign cs).1 ++ (spanSign cs).2 ∧
      ((spanSign cs).1 = [] ∨ (spanSign cs).1 = ['+'] ∨ (spanSign cs).1 = ['-']) := by
  unfold spanSign
  split
  · exact ⟨rfl, .inr (.inl rfl)⟩
  · exact ⟨rfl, .inr (.inr rfl)⟩
  · exact ⟨rfl, .inl rfl⟩

theorem spanExponent_cons (e : Char) (cs : List Char) :
    spanExponent (e :: cs) =
      let digits := Decimal.spanDigits (spanSign cs).2
      if (e == 'e' || e == 'E') && !digits.1.isEmpty then
        (e :: ((spanSign cs).1 ++ digits.1), digits.2)
      else ([], e :: cs) := by
  unfold spanExponent
  dsimp only
  cases e == 'e' || e == 'E' with
  | false => rfl
  | true =>
    rw [if_pos rfl, Bool.true_and]
    cases cs with
    | nil => rfl
    | cons c cs =>
      unfold spanSign
      by_cases hplus : c = '+'
      · subst hplus
        cases hempty : (Decimal.spanDigits cs).1.isEmpty <;> simp [hempty]
      · by_cases hminus : c = '-'
        · subst hminus
          cases hempty : (Decimal.spanDigits cs).1.isEmpty <;> simp [hempty]
        · simp [hplus, hminus]

theorem spanExponent_sound (cs : List Char) :
    cs = (spanExponent cs).1 ++ (spanExponent cs).2 ∧ IsExponent (spanExponent cs).1 := by
  cases cs with
  | nil => exact ⟨rfl, .inl rfl⟩
  | cons e cs =>
    rw [spanExponent_cons]
    dsimp only
    split
    · rename_i hcond
      simp only [Bool.and_eq_true, Bool.or_eq_true, beq_iff_eq, Bool.not_eq_true',
        List.isEmpty_eq_false_iff] at hcond
      obtain ⟨hsplit, hsign⟩ := spanSign_sound cs
      obtain ⟨happend, hdigits⟩ := spanDigits_sound (spanSign cs).2
      refine ⟨?_, .inr ⟨e, _, _, rfl, hcond.1, hsign, hcond.2, hdigits⟩⟩
      rw [List.cons_append, List.append_assoc, ← happend, ← hsplit]
    · exact ⟨rfl, .inl rfl⟩

/-- The sign of a number at the front, if any. -/
def spanMinus : List Char → List Char × List Char
  | '-' :: rest => (['-'], rest)
  | cs => ([], cs)

theorem spanMinus_sound (cs : List Char) :
    cs = (spanMinus cs).1 ++ (spanMinus cs).2 ∧
      ((spanMinus cs).1 = [] ∨ (spanMinus cs).1 = ['-']) := by
  unfold spanMinus
  split
  · exact ⟨rfl, .inr rfl⟩
  · exact ⟨rfl, .inl rfl⟩

/-- The whole part at the front of a number, without its sign. -/
def wholeOf (cs : List Char) : List Char := (spanWhole (spanMinus cs).2).1

/-- What is left behind a number at the front. -/
def behindNumber (cs : List Char) : List Char :=
  (spanExponent (spanFraction (spanWhole (spanMinus cs).2).2).2).2

/-- The value is one that a number with this whole part can have: one with a fraction, or the
whole number of so many digits. -/
def IsValueOf (whole : List Char) (v : Value) : Prop :=
  (∃ x, v = .float x) ∨
    ∃ n : Int, v = .int n ∧ n.natAbs = Decimal.digitsValue whole ∧
      whole.length ≤ Decimal.maxDigits

/-- All that reading a number comes to. -/
theorem readNumber_cases (cs : List Char) :
    (wholeOf cs = [] ∧ readNumber cs = .error (.malformed .valueExpected cs.length)) ∨
      (wholeOf cs ≠ [] ∧ ∃ v, IsValueOf (wholeOf cs) v ∧
        readNumber cs = .ok (v, behindNumber cs)) ∨
      (Decimal.maxDigits < (wholeOf cs).length ∧
        readNumber cs = .error (.tooManyDigits (wholeOf cs).length)) := by
  generalize hread : readNumber cs = outcome
  unfold readNumber at hread
  split at hread
  rename_i sign body hsplit
  have hminus : spanMinus cs = (sign, body) := by
    rw [← hsplit]
    cases cs with
    | nil => rfl
    | cons c cs =>
      by_cases hc : c = '-'
      · rw [hc]
        rfl
      · simp [spanMinus, hc]
  unfold wholeOf behindNumber
  rw [hminus]
  dsimp only at hread ⊢
  split at hread
  · rename_i hempty
    exact .inl ⟨List.isEmpty_iff.mp hempty, hread.symm⟩
  · rename_i hne
    rw [List.isEmpty_iff] at hne
    refine .inr ?_
    split at hread
    · split at hread
      · rename_i hlong
        exact .inr ⟨hlong, hread.symm⟩
      · rename_i hshort
        refine .inl ⟨hne, _, .inr ⟨_, rfl, ?_, Nat.le_of_not_lt hshort⟩, hread.symm⟩
        split
        · rfl
        · exact Int.natAbs_neg _
    · exact .inl ⟨hne, _, .inl ⟨_, rfl⟩, hread.symm⟩

theorem readNumber_sound {cs : List Char} (h : wholeOf cs ≠ []) :
    IsNumber cs (behindNumber cs) := by
  obtain ⟨hminus, hsign⟩ := spanMinus_sound cs
  obtain ⟨hwhole, his⟩ := spanWhole_sound (spanMinus cs).2
  obtain ⟨hfraction, hpoint⟩ := spanFraction_sound (spanWhole (spanMinus cs).2).2
  obtain ⟨hexponent, he⟩ := spanExponent_sound (spanFraction (spanWhole (spanMinus cs).2).2).2
  refine ⟨_, _, _, _, ?_, hsign, his h, hpoint, he⟩
  unfold behindNumber
  rw [List.append_assoc, ← hexponent, List.append_assoc, ← hfraction, List.append_assoc, ← hwhole,
    ← hminus]

theorem spanWhole_append {whole : List Char} (h : IsWhole whole) (hrest : NoDigit rest) :
    spanWhole (whole ++ rest) = (whole, rest) := by
  rcases h with rfl | ⟨⟨hne, hdigits⟩, hzero⟩
  · rfl
  · rw [← spanDigits_append hdigits hrest]
    obtain ⟨c, whole, rfl⟩ := List.exists_cons_of_ne_nil hne
    have hc : c ≠ '0' := fun h => hzero (congrArg some h)
    simp [spanWhole, hc]

theorem spanFraction_append {fraction : List Char} (h : IsFraction fraction)
    (hrest : NoDigit rest) (hpoint : rest.head? ≠ some '.') :
    spanFraction (fraction ++ rest) = (fraction, rest) := by
  rcases h with rfl | ⟨digits, rfl, hne, hdigits⟩
  · unfold spanFraction
    split
    · rename_i hhead
      exact absurd (congrArg List.head? hhead) hpoint
    · rfl
  · have hspan : spanFraction ('.' :: digits ++ rest) =
        if (Decimal.spanDigits (digits ++ rest)).1.isEmpty then ([], '.' :: digits ++ rest)
        else ('.' :: (Decimal.spanDigits (digits ++ rest)).1,
          (Decimal.spanDigits (digits ++ rest)).2) := rfl
    rw [hspan, spanDigits_append hdigits hrest]
    simp [hne]

theorem spanSign_append {sign digits : List Char}
    (hsign : sign = [] ∨ sign = ['+'] ∨ sign = ['-']) (hdigits : IsDigits digits) :
    spanSign (sign ++ digits ++ rest) = (sign, digits ++ rest) := by
  rcases hsign with rfl | rfl | rfl
  · obtain ⟨c, digits, rfl⟩ := List.exists_cons_of_ne_nil hdigits.1
    have hc := hdigits.2 c List.mem_cons_self
    unfold spanSign
    split
    · rename_i hplus
      cases hplus
      exact absurd hc (by decide)
    · rename_i hminus
      cases hminus
      exact absurd hc (by decide)
    · rfl
  · rfl
  · rfl

theorem spanExponent_append {exponent : List Char} (h : IsExponent exponent)
    (hrest : NoDigit rest) (hletter : rest.head? ≠ some 'e' ∧ rest.head? ≠ some 'E') :
    spanExponent (exponent ++ rest) = (exponent, rest) := by
  rcases h with rfl | ⟨e, sign, digits, rfl, he, hsign, hdigits⟩
  · cases rest with
    | nil => rfl
    | cons c rest =>
      have hc : c ≠ 'e' ∧ c ≠ 'E' := by simpa using hletter
      rw [List.nil_append, spanExponent_cons]
      simp [hc]
  · rw [List.cons_append, spanExponent_cons, spanSign_append hsign hdigits]
    dsimp only
    rw [spanDigits_append hdigits.2 hrest]
    simp [he, hdigits.1]

theorem spanMinus_append {sign whole : List Char} (hsign : sign = [] ∨ sign = ['-'])
    (hwhole : IsWhole whole) : spanMinus (sign ++ (whole ++ rest)) = (sign, whole ++ rest) := by
  rcases hsign with rfl | rfl
  · rcases hwhole with rfl | ⟨⟨hne, hdigits⟩, -⟩
    · rfl
    · obtain ⟨c, whole, rfl⟩ := List.exists_cons_of_ne_nil hne
      have hc : c ≠ '-' := by
        rintro rfl
        exact absurd (hdigits '-' List.mem_cons_self) (by decide)
      simp [spanMinus, hc]
  · rfl

theorem IsWhole.ne_nil {whole : List Char} (h : IsWhole whole) : whole ≠ [] := by
  rcases h with rfl | ⟨⟨hne, -⟩, -⟩
  · decide
  · exact hne

/-- What can stand behind a value takes no number further. -/
theorem Ends.stops (h : Ends rest) : ∀ c ∈ rest.head?,
    c.isDigit = false ∧ c ≠ '.' ∧ c ≠ 'e' ∧ c ≠ 'E' := by
  intro c hc
  rcases h c hc with hblank | rfl | rfl | rfl
  · unfold isBlank at hblank
    simp only [Bool.or_eq_true, beq_iff_eq] at hblank
    rcases hblank with ((rfl | rfl) | rfl) | rfl <;> decide
  all_goals decide

theorem noDigit_exponent {exponent : List Char} (h : IsExponent exponent) (hrest : Ends rest) :
    NoDigit (exponent ++ rest) ∧ (exponent ++ rest).head? ≠ some '.' := by
  rcases h with rfl | ⟨e, sign, digits, rfl, rfl | rfl, -⟩
  · exact ⟨fun c hc => (hrest.stops c hc).1, fun hpoint => (hrest.stops '.' hpoint).2.1 rfl⟩
  all_goals exact ⟨fun c hc => by cases hc; rfl, by simp⟩

/-- Where a number stands and its end can be seen, the whole of it is read. -/
theorem behindNumber_eq (h : IsNumber cs rest) (hrest : Ends rest) :
    wholeOf cs ≠ [] ∧ behindNumber cs = rest := by
  obtain ⟨sign, whole, fraction, exponent, rfl, hsign, hwhole, hfraction, hexponent⟩ := h
  obtain ⟨hdigit, hpoint⟩ := noDigit_exponent hexponent hrest
  have hafter : NoDigit (fraction ++ (exponent ++ rest)) := by
    rcases hfraction with rfl | ⟨digits, rfl, -⟩
    · exact hdigit
    · exact fun c hc => by cases hc; rfl
  have hletter : rest.head? ≠ some 'e' ∧ rest.head? ≠ some 'E' :=
    ⟨fun h => (hrest.stops 'e' h).2.2.1 rfl, fun h => (hrest.stops 'E' h).2.2.2 rfl⟩
  unfold wholeOf behindNumber
  rw [List.append_assoc, List.append_assoc, List.append_assoc, spanMinus_append hsign hwhole,
    spanWhole_append hwhole hafter, spanFraction_append hfraction hdigit hpoint,
    spanExponent_append hexponent (fun c hc => (hrest.stops c hc).1) hletter]
  exact ⟨hwhole.ne_nil, rfl⟩

end SearchQuery.Json
