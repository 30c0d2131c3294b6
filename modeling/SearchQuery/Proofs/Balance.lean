-- The laws of parentheses in texts. A balanced text closes every group that it opens, and
-- closes none before it is open. The groups of a text can be cut off again if what stands
-- in each of them is balanced.
import Mathlib.Data.List.Infix

namespace SearchQuery.Text

/-! ## Balanced texts -/

/-- As many groups are closed as are opened, and no front part closes more than it opens. -/
def Balanced (cs : List Char) : Prop :=
  cs.count '(' = cs.count ')' ∧ ∀ front, front <+: cs → front.count ')' ≤ front.count '('

/-- The text opens and closes no group. -/
def Plain (cs : List Char) : Prop := '(' ∉ cs ∧ ')' ∉ cs

instance (cs : List Char) : Decidable (Plain cs) := inferInstanceAs (Decidable (_ ∧ _))

/-- How many groups are open behind a text that starts inside `depth` of them; none if the
text closes a group that is not open. -/
def depthBehind : Nat → List Char → Option Nat
  | depth, [] => some depth
  | depth, c :: cs =>
    if c = '(' then depthBehind (depth + 1) cs
    else if c = ')' then
      match depth with
      | 0 => none
      | depth + 1 => depthBehind depth cs
    else depthBehind depth cs

@[simp] theorem depthBehind_nil (d : Nat) : depthBehind d [] = some d := by
  simp [depthBehind]

@[simp] theorem depthBehind_open (d : Nat) (cs : List Char) :
    depthBehind d ('(' :: cs) = depthBehind (d + 1) cs := by
  simp [depthBehind]

@[simp] theorem depthBehind_close_zero (cs : List Char) :
    depthBehind 0 (')' :: cs) = none := by
  simp [depthBehind]

@[simp] theorem depthBehind_close (d : Nat) (cs : List Char) :
    depthBehind (d + 1) (')' :: cs) = depthBehind d cs := by
  simp [depthBehind]

theorem depthBehind_other (d : Nat) {c : Char} (cs : List Char) (ho : c ≠ '(') (hc : c ≠ ')') :
    depthBehind d (c :: cs) = depthBehind d cs := by
  simp [depthBehind, ho, hc]

/-- The three kinds of letters that a walk over a text meets. -/
theorem letter_cases (c : Char) : c = '(' ∨ c = ')' ∨ (c ≠ '(' ∧ c ≠ ')') := by
  by_cases ho : c = '('
  · exact Or.inl ho
  · by_cases hc : c = ')'
    · exact Or.inr (Or.inl hc)
    · exact Or.inr (Or.inr ⟨ho, hc⟩)

theorem depthBehind_append (d : Nat) (as bs : List Char) :
    depthBehind d (as ++ bs) = (depthBehind d as).bind (depthBehind · bs) := by
  induction as generalizing d with
  | nil => simp
  | cons c as ih =>
    rcases letter_cases c with rfl | rfl | ⟨ho, hc⟩
    · simp [ih]
    · cases d with
      | zero => simp
      | succ d => simp [ih]
    · simp [depthBehind_other _ _ ho hc, ih]

/-- A walk that starts deeper ends deeper by as much. -/
theorem depthBehind_add {d e : Nat} {cs : List Char} (k : Nat) (h : depthBehind d cs = some e) :
    depthBehind (d + k) cs = some (e + k) := by
  induction cs generalizing d with
  | nil => simp_all
  | cons c cs ih =>
    rcases letter_cases c with rfl | rfl | ⟨ho, hc⟩
    · rw [depthBehind_open] at h ⊢
      have := ih h
      rwa [Nat.add_right_comm] at this
    · cases d with
      | zero => simp at h
      | succ d =>
        rw [depthBehind_close] at h
        rw [Nat.add_right_comm, depthBehind_close]
        exact ih h
    · rw [depthBehind_other _ _ ho hc] at h ⊢
      exact ih h

theorem depthBehind_plain (d : Nat) {cs : List Char} (h : Plain cs) :
    depthBehind d cs = some d := by
  obtain ⟨ho, hc⟩ := h
  induction cs with
  | nil => simp
  | cons c cs ih =>
    simp only [List.mem_cons, not_or] at ho hc
    rw [depthBehind_other _ _ (Ne.symm ho.1) (Ne.symm hc.1)]
    exact ih ho.2 hc.2

/-- The front parts of a text are the empty one and those that start with its first letter. -/
theorem forall_front_cons {p : List Char → Prop} {c : Char} {cs : List Char} :
    (∀ front, front <+: c :: cs → p front) ↔ p [] ∧ ∀ front, front <+: cs → p (c :: front) := by
  constructor
  · intro h
    exact ⟨h [] List.nil_prefix, fun front hf => h _ ((List.prefix_cons_inj c).mpr hf)⟩
  · rintro ⟨hnil, hcons⟩ front hf
    rcases List.prefix_cons_iff.mp hf with rfl | ⟨rest, rfl, hrest⟩
    · exact hnil
    · exact hcons rest hrest

/-- A walk ends well exactly if no front part closes more than is open, and it ends as deep
as the letters count. -/
theorem depthBehind_eq_some_iff {d e : Nat} {cs : List Char} :
    depthBehind d cs = some e ↔
      d + cs.count '(' = e + cs.count ')' ∧
        ∀ front, front <+: cs → front.count ')' ≤ d + front.count '(' := by
  induction cs generalizing d with
  | nil => simp [List.prefix_nil]
  | cons c cs ih =>
    rw [forall_front_cons]
    rcases letter_cases c with rfl | rfl | ⟨ho, hc⟩
    · rw [depthBehind_open, ih]
      simp only [List.count_cons_self, List.count_cons_of_ne (by decide : '(' ≠ ')'),
        List.count_nil, Nat.zero_le, true_and]
      refine and_congr (by omega) (forall₂_congr fun front _ => by omega)
    · cases d with
      | zero =>
        simp only [depthBehind_close_zero, reduceCtorEq, false_iff, not_and]
        intro _ _ h
        simpa using h [] List.nil_prefix
      | succ d =>
        rw [depthBehind_close, ih]
        simp only [List.count_cons_self, List.count_cons_of_ne (by decide : ')' ≠ '('),
          List.count_nil, Nat.zero_le, true_and]
        refine and_congr (by omega) (forall₂_congr fun front _ => by omega)
    · rw [depthBehind_other _ _ ho hc, ih]
      simp [List.count_cons_of_ne ho, List.count_cons_of_ne hc]

theorem balanced_iff_depthBehind {cs : List Char} : Balanced cs ↔ depthBehind 0 cs = some 0 := by
  rw [depthBehind_eq_some_iff]
  simp [Balanced]

instance (cs : List Char) : Decidable (Balanced cs) :=
  decidable_of_iff _ balanced_iff_depthBehind.symm

theorem Balanced.depthBehind {cs : List Char} (h : Balanced cs) (d : Nat) :
    depthBehind d cs = some d := by
  simpa using depthBehind_add d (balanced_iff_depthBehind.mp h)

theorem balanced_nil : Balanced [] := balanced_iff_depthBehind.mpr (depthBehind_nil 0)

theorem Plain.append {as bs : List Char} (ha : Plain as) (hb : Plain bs) : Plain (as ++ bs) := by
  constructor
  · simpa using ⟨ha.1, hb.1⟩
  · simpa using ⟨ha.2, hb.2⟩

theorem Plain.balanced {cs : List Char} (h : Plain cs) : Balanced cs :=
  balanced_iff_depthBehind.mpr (depthBehind_plain 0 h)

theorem Balanced.append {as bs : List Char} (ha : Balanced as) (hb : Balanced bs) :
    Balanced (as ++ bs) := by
  rw [balanced_iff_depthBehind, depthBehind_append, ha.depthBehind, Option.bind_some]
  exact hb.depthBehind 0

/-- A group with a balanced text in it. -/
theorem Balanced.inGroup {cs : List Char} (h : Balanced cs) : Balanced ('(' :: cs ++ [')']) := by
  rw [balanced_iff_depthBehind, List.cons_append, depthBehind_open, depthBehind_append,
    h.depthBehind]
  simp

/-! ## Joined texts -/

theorem mem_intercalate {gap : String} {parts : List String} {c : Char}
    (h : c ∈ (gap.intercalate parts).toList) :
    c ∈ gap.toList ∨ ∃ p ∈ parts, c ∈ p.toList := by
  induction parts with
  | nil => simp at h
  | cons p parts ih =>
    cases parts with
    | nil => exact Or.inr ⟨p, List.mem_cons_self, by simpa using h⟩
    | cons q parts =>
      rw [String.intercalate_cons_cons, String.toList_append, String.toList_append,
        List.mem_append, List.mem_append] at h
      rcases h with (hp | hgap) | hrest
      · exact Or.inr ⟨p, List.mem_cons_self, hp⟩
      · exact Or.inl hgap
      · rcases ih hrest with hgap | ⟨x, hx, hc⟩
        · exact Or.inl hgap
        · exact Or.inr ⟨x, List.mem_cons_of_mem p hx, hc⟩

theorem plain_intercalate {gap : String} {parts : List String} (hgap : Plain gap.toList)
    (h : ∀ p ∈ parts, Plain p.toList) : Plain (gap.intercalate parts).toList := by
  constructor
  · intro hopen
    rcases mem_intercalate hopen with hg | ⟨p, hp, hc⟩
    · exact hgap.1 hg
    · exact (h p hp).1 hc
  · intro hclose
    rcases mem_intercalate hclose with hg | ⟨p, hp, hc⟩
    · exact hgap.2 hg
    · exact (h p hp).2 hc

theorem balanced_intercalate {gap : String} {parts : List String} (hgap : Balanced gap.toList)
    (h : ∀ p ∈ parts, Balanced p.toList) : Balanced (gap.intercalate parts).toList := by
  induction parts with
  | nil => simpa using balanced_nil
  | cons p parts ih =>
    have hp := h p List.mem_cons_self
    have hrest := ih fun q hq => h q (List.mem_cons_of_mem p hq)
    cases parts with
    | nil => simpa using hp
    | cons q parts =>
      rw [String.intercalate_cons_cons]
      simp only [String.toList_append]
      exact (hp.append hgap).append hrest

theorem intercalate_eq_empty {gap : String} {parts : List String}
    (h : gap.intercalate parts = "") : ∀ p ∈ parts, p = "" := by
  induction parts with
  | nil => simp
  | cons p parts ih =>
    cases parts with
    | nil => simpa using h
    | cons q parts =>
      rw [String.intercalate_cons_cons, String.append_eq_empty_iff,
        String.append_eq_empty_iff] at h
      intro x hx
      rcases List.mem_cons.mp hx with rfl | hx
      · exact h.1.1
      · exact ih h.2 x hx

/-! ## Groups with a word between them -/

/-- The text `(E1) word (E2) word ... (En)`. -/
def groups (word : String) : List String → String
  | [] => ""
  | [e] => "(" ++ e ++ ")"
  | e :: es => "(" ++ e ++ ") " ++ word ++ " " ++ groups word es

theorem groups_cons_cons (word e f : String) (es : List String) :
    groups word (e :: f :: es) = "(" ++ e ++ ") " ++ word ++ " " ++ groups word (f :: es) := rfl

theorem balanced_groups {word : String} {es : List String} (hw : Plain word.toList)
    (h : ∀ e ∈ es, Balanced e.toList) : Balanced (groups word es).toList := by
  induction es with
  | nil => simpa [groups] using balanced_nil
  | cons e es ih =>
    have he := (h e List.mem_cons_self).inGroup
    cases es with
    | nil => simpa [groups] using he
    | cons f es =>
      have hrest := ih fun g hg => h g (List.mem_cons_of_mem e hg)
      have hblank : Plain [' '] := by decide
      have hgap : Plain (' ' :: word.toList ++ [' ']) := (hblank.append hw).append hblank
      have := (he.append hgap.balanced).append hrest
      simpa [groups_cons_cons] using this

/-! ## Cutting groups off -/

/-- The groups that a text holds behind a place inside `depth` open groups, of the outermost
of which the letters `seen` are behind already, the last one first. What stands outside of
all groups is passed over. -/
def cutFrom : Nat → List Char → List Char → List (List Char)
  | _, _, [] => []
  | 0, _, c :: cs => if c = '(' then cutFrom 1 [] cs else cutFrom 0 [] cs
  | depth + 1, seen, c :: cs =>
    if c = '(' then cutFrom (depth + 2) (c :: seen) cs
    else if c = ')' then
      if depth = 0 then seen.reverse :: cutFrom 0 [] cs else cutFrom depth (c :: seen) cs
    else cutFrom (depth + 1) (c :: seen) cs

/-- The contents of the outermost groups of a text, in order. -/
def topGroups (s : String) : List String := (cutFrom 0 [] s.toList).map String.ofList

/-- Inside a group, a text that comes back to some depth is taken into the group whole. -/
theorem cutFrom_inside {k m : Nat} {cs : List Char} (seen rest : List Char)
    (h : depthBehind k cs = some m) :
    cutFrom (k + 1) seen (cs ++ rest) = cutFrom (m + 1) (cs.reverse ++ seen) rest := by
  induction cs generalizing k seen with
  | nil => simp_all
  | cons c cs ih =>
    rcases letter_cases c with rfl | rfl | ⟨ho, hc⟩
    · rw [depthBehind_open] at h
      simpa [cutFrom] using ih ('(' :: seen) h
    · cases k with
      | zero => simp at h
      | succ k =>
        rw [depthBehind_close] at h
        simpa [cutFrom] using ih (')' :: seen) h
    · rw [depthBehind_other _ _ ho hc] at h
      simpa [cutFrom, ho, hc] using ih (c :: seen) h

theorem cutFrom_plain {cs : List Char} (rest : List Char) (h : '(' ∉ cs) :
    cutFrom 0 [] (cs ++ rest) = cutFrom 0 [] rest := by
  induction cs with
  | nil => rfl
  | cons c cs ih =>
    simp only [List.mem_cons, not_or] at h
    simpa [cutFrom, Ne.symm h.1] using ih h.2

/-- A group with a balanced text in it is cut off as it is. -/
theorem cutFrom_group {cs : List Char} (rest : List Char) (h : Balanced cs) :
    cutFrom 0 [] ('(' :: cs ++ ')' :: rest) = cs :: cutFrom 0 [] rest := by
  have hin := cutFrom_inside [] (')' :: rest) (balanced_iff_depthBehind.mp h)
  simp only [List.cons_append, cutFrom, if_true]
  rw [hin]
  simp [cutFrom]

/-- No balanced text looks like the end of its own group: groups with a word between them
fall apart into what was put into them. -/
theorem topGroups_groups {word : String} {es : List String} (hw : Plain word.toList)
    (h : ∀ e ∈ es, Balanced e.toList) : topGroups (groups word es) = es := by
  induction es with
  | nil => simp [topGroups, groups, cutFrom]
  | cons e es ih =>
    have he := h e List.mem_cons_self
    have hrest := ih fun f hf => h f (List.mem_cons_of_mem e hf)
    cases es with
    | nil =>
      have := cutFrom_group [] he
      simp_all [topGroups, groups, cutFrom]
    | cons f es =>
      have hgap : '(' ∉ ' ' :: word.toList ++ [' '] := by
        simpa using hw.1
      have hcut := cutFrom_group (' ' :: word.toList ++ [' '] ++ (groups word (f :: es)).toList) he
      rw [cutFrom_plain _ hgap] at hcut
      unfold topGroups at hrest ⊢
      simp only [groups_cons_cons, String.toList_append]
      simpa [hrest] using congrArg (List.map String.ofList) hcut

end SearchQuery.Text
