-- Values as keys of a map. Which of them fall together is decided by what they stand for:
-- one and yes are the same key, a frozen set is the same in any order. Among values that can be
-- keys, not-a-number aside, being the same is reflexive, symmetric and transitive.
import Mathlib.Data.List.Forall2
import SearchQuery.Value.Equality

namespace SearchQuery

/-! ## Numbers -/

namespace Decimal

open Float.Model

/-- Where a number stands among all numbers: both zeros are at one place, not-a-number at none. -/
inductive Place where
  | infinite (sign : UnpackedFloat.Sign)
  | zero
  | finite (sign : UnpackedFloat.Sign) (mantissa : Nat) (exponent : Int)

def placeOf? : UnpackedFloat → Option Place
  | .notANumber => none
  | .infinity s => some (.infinite s)
  | .zero _ => some .zero
  | .finite s m e _ => some (.finite s m e)

def place? (x : Float) : Option Place := placeOf? x.toModel.unpack

theorem compare_sign_eq_iff (s t : UnpackedFloat.Sign) : compare s t = .eq ↔ s = t := by
  cases s <;> cases t <;> constructor <;> intro h <;> first | rfl | cases h

/-- Numbers at different places do not compare as equal. -/
theorem compare_apart {u v : UnpackedFloat} (hcompare : u.compare v ≠ some .eq)
    (hplace : placeOf? u ≠ placeOf? v) :
    u.compare v = some .eq ↔ (placeOf? u).isSome ∧ placeOf? u = placeOf? v :=
  iff_of_false hcompare fun h => hplace h.2

/-- Numbers compare as equal if they are at one place. -/
theorem compare_eq_iff (u v : UnpackedFloat) :
    u.compare v = some .eq ↔ (placeOf? u).isSome ∧ placeOf? u = placeOf? v := by
  cases u with
  | notANumber => exact iff_of_false (by rintro ⟨⟩) (by rintro ⟨⟨⟩, -⟩)
  | infinity s =>
    cases v with
    | infinity t =>
      show some (compare s t) = some .eq ↔
        true = true ∧ some (Place.infinite s) = some (.infinite t)
      rw [Option.some_inj, compare_sign_eq_iff]
      simp
    | _ => cases s <;> exact compare_apart (by rintro ⟨⟩) (by rintro ⟨⟩)
  | zero s =>
    cases v with
    | infinity t | finite t => cases t <;> exact compare_apart (by rintro ⟨⟩) (by rintro ⟨⟩)
    | notANumber => exact compare_apart (by rintro ⟨⟩) (by rintro ⟨⟩)
    | zero => exact iff_of_true rfl ⟨rfl, rfl⟩
  | finite s m e =>
    cases v with
    | infinity t => cases t <;> exact compare_apart (by rintro ⟨⟩) (by rintro ⟨⟩)
    | notANumber | zero => cases s <;> exact compare_apart (by rintro ⟨⟩) (by rintro ⟨⟩)
    | finite t n f =>
      have hsize : (compare e f).then (compare m n) = .eq ↔
          some (Place.finite s m e) = some (.finite s n f) := by
        simp [Ordering.then_eq_eq, and_comm]
      cases s with
      | negative =>
        cases t with
        | negative =>
          show some ((compare e f).then (compare m n)).swap = some .eq ↔ _
          rw [Option.some_inj, Ordering.swap_eq_eq, hsize]
          exact (and_iff_right rfl).symm
        | positive => exact compare_apart (by rintro ⟨⟩) (by rintro ⟨⟩)
      | positive =>
        cases t with
        | negative => exact compare_apart (by rintro ⟨⟩) (by rintro ⟨⟩)
        | positive =>
          show some ((compare e f).then (compare m n)) = some .eq ↔ _
          rw [Option.some_inj, hsize]
          exact (and_iff_right rfl).symm

theorem beq_iff_place? (x y : Float) :
    (x == y) = true ↔ (place? x).isSome ∧ place? x = place? y := by
  rw [place?, place?, ← compare_eq_iff]
  show (x.toModel.unpack.compare y.toModel.unpack == some .eq) = true ↔ _
  exact beq_iff_eq

end Decimal

/-! ## Conditions -/

namespace Condition

mutual
/-- Conditions that are built alike are the same condition. -/
theorem same_iff (c d : Condition) : same c d = true ↔ c = d := by
  match c, d with
  | .literal a, .literal b => simp [same]
  | .fields a, .fields b => simp [same]
  | .compound m as, .compound n bs => simp [same, sameAll_iff as bs]
  | .literal _, .fields _ | .literal _, .compound .. | .fields _, .literal _
  | .fields _, .compound .. | .compound .., .literal _ | .compound .., .fields _ => simp [same]
theorem sameAll_iff (cs ds : List Condition) : sameAll cs ds = true ↔ cs = ds := by
  match cs, ds with
  | [], [] | [], _ :: _ | _ :: _, [] => simp [sameAll]
  | c :: cs, d :: ds => simp [sameAll, same_iff c d, sameAll_iff cs ds]
end

end Condition

/-! ## Values that hold no others -/

/-- When a moment is: an instant if it is told with a clock, else just what it says. -/
def Moment.when (m : Moment) : Int ⊕ Moment :=
  match m.instant? with
  | some microseconds => .inl microseconds
  | none => .inr m

theorem Moment.same_iff (m n : Moment) : m.same n = true ↔ m.when = n.when := by
  unfold same when
  cases m.instant? <;> cases n.instant? <;> simp

/-- What a value that holds no others stands for. -/
inductive Leaf where
  | nothing
  | whole (n : Int)
  | number (place : Decimal.Place)
  | text (s : String)
  | bytes (b : List UInt8)
  | time (t : Int ⊕ Moment)
  | condition (c : Condition)

namespace Value

/-- What a value stands for; nothing for not-a-number and for values that hold others. -/
def leaf? : Value → Option Leaf
  | .null => some .nothing
  | .bool b => some (.whole (if b then 1 else 0))
  | .int n => some (.whole n)
  | .float x =>
    match Decimal.exactInt? x with
    | some n => some (.whole n)
    | none => (Decimal.place? x).map .number
  | .text s => some (.text s)
  | .direction d => some (.text d.name)
  | .operator o => some (.text o.name)
  | .bytes b => some (.bytes b)
  | .moment m => some (.time m.when)
  | .condition c => some (.condition c)
  | .list _ | .tuple _ | .map _ | .set _ | .frozenSet _ => none

theorem leaf?_whole_iff (v : Value) (n : Int) :
    v.leaf? = some (.whole n) ↔ v.wholeNumber? = some n := by
  cases v with
  | float x => cases hx : Decimal.exactInt? x <;> simp [leaf?, wholeNumber?, hx]
  | _ => simp [leaf?, wholeNumber?]

/-- Values that hold no others are the same if they stand for the same. -/
theorem sameLeaf_iff (a b : Value) :
    sameLeaf a b = true ↔ a.leaf?.isSome ∧ a.leaf? = b.leaf? := by
  unfold sameLeaf
  cases ha : a.wholeNumber? with
  | some m =>
    have hm := (leaf?_whole_iff a m).mpr ha
    cases hb : b.wholeNumber? with
    | some n =>
      have hn := (leaf?_whole_iff b n).mpr hb
      simp [hm, hn]
    | none =>
      have hn : b.leaf? ≠ some (.whole m) := by simp [leaf?_whole_iff, hb]
      simp [hm, hn.symm]
  | none =>
    cases hb : b.wholeNumber? with
    | some n =>
      have hn := (leaf?_whole_iff b n).mpr hb
      have hm : a.leaf? ≠ some (.whole n) := by simp [leaf?_whole_iff, ha]
      simp [hn, hm]
    | none =>
      cases a with
      | bool | int => cases ha
      | float x =>
        have hx : Decimal.exactInt? x = none := ha
        cases b with
        | bool | int => cases hb
        | float y =>
          have hy : Decimal.exactInt? y = none := hb
          have hplace : Function.Injective Leaf.number := fun _ _ h => Leaf.number.inj h
          simp [leaf?, hx, hy, Decimal.beq_iff_place?, (Option.map_injective hplace).eq_iff]
        | _ => cases hp : Decimal.place? x <;> simp [leaf?, text?, hx, hp]
      | _ =>
        cases b with
        | bool | int => cases hb
        | float y =>
          have hy : Decimal.exactInt? y = none := hb
          cases hp : Decimal.place? y <;> simp [leaf?, text?, hy, hp]
        | _ => simp [leaf?, text?, Condition.same_iff, Moment.same_iff]

/-! ## Lists whose members are related -/

section

variable {α : Type} {r : α → α → Prop} {xs ys zs : List α}

theorem forall₂_trans_of (h : ∀ x ∈ xs, ∀ y z, r x y → r y z → r x z)
    (hxy : List.Forall₂ r xs ys) (hyz : List.Forall₂ r ys zs) : List.Forall₂ r xs zs := by
  induction hxy generalizing zs with
  | nil => exact hyz
  | cons hhead _ ih =>
    obtain - | ⟨hnext, hrest⟩ := hyz
    rw [List.forall_mem_cons] at h
    exact .cons (h.1 _ _ hhead hnext) (ih h.2 hrest)

theorem forall₂_symm_of (h : ∀ x ∈ xs, ∀ y, r x y → r y x) (hxy : List.Forall₂ r xs ys) :
    List.Forall₂ r ys xs := by
  induction hxy with
  | nil => exact .nil
  | cons hhead _ ih =>
    rw [List.forall_mem_cons] at h
    exact .cons (h.1 _ hhead) (ih h.2)

/-- Where no one of the second list is related to two of the first, and the second list is not
longer, everyone in it is taken. -/
theorem covered_of_covers (happart : xs.Pairwise fun a b => ∀ y, r a y → ¬ r b y)
    (hcovers : ∀ x ∈ xs, ∃ y ∈ ys, r x y) (hlength : ys.length ≤ xs.length) :
    ∀ y ∈ ys, ∃ x ∈ xs, r x y := by
  induction xs generalizing ys with
  | nil =>
    rw [List.eq_nil_of_length_eq_zero (Nat.le_zero.mp hlength)]
    simp
  | cons x xs ih =>
    rw [List.pairwise_cons] at happart
    rw [List.forall_mem_cons] at hcovers
    obtain ⟨⟨taken, htaken, hx⟩, hcovers⟩ := hcovers
    obtain ⟨before, after, rfl⟩ := List.append_of_mem htaken
    have hrest : ∀ z ∈ xs, ∃ y ∈ before ++ after, r z y := by
      intro z hz
      obtain ⟨y, hy, hzy⟩ := hcovers z hz
      obtain hbefore | rfl | hafter : y ∈ before ∨ y = taken ∨ y ∈ after := by simpa using hy
      · exact ⟨y, List.mem_append_left _ hbefore, hzy⟩
      · exact absurd hzy (happart.1 z hz y hx)
      · exact ⟨y, List.mem_append_right _ hafter, hzy⟩
    have hshorter : (before ++ after).length ≤ xs.length := by
      simp only [List.length_append, List.length_cons] at hlength ⊢
      omega
    intro y hy
    obtain rfl | hother : y = taken ∨ y ∈ before ++ after := by
      simpa [or_left_comm] using hy
    · exact ⟨x, List.mem_cons_self, hx⟩
    · obtain ⟨z, hz, hzy⟩ := ih happart.2 hrest hshorter y hother
      exact ⟨z, List.mem_cons_of_mem _ hz, hzy⟩

end

/-! ## When values are the same -/

theorem same_leaf_iff {a : Value} {l : Leaf} (h : a.leaf? = some l) (b : Value) :
    same a b = true ↔ b.leaf? = some l := by
  have hleaf : same a b = sameLeaf a b := by
    cases a with
    | list | tuple | map | set | frozenSet => cases h
    | _ => simp [same]
  rw [hleaf, sameLeaf_iff, h]
  simp [eq_comm]

theorem sameAll_iff (xs ys : List Value) :
    sameAll xs ys = true ↔ List.Forall₂ (fun x y => same x y = true) xs ys := by
  induction xs generalizing ys with
  | nil => cases ys <;> simp [sameAll]
  | cons x xs ih => cases ys <;> simp [sameAll, ih]

theorem same_tuple_iff (xs : List Value) (b : Value) :
    same (.tuple xs) b = true ↔
      ∃ ys, b = .tuple ys ∧ List.Forall₂ (fun x y => same x y = true) xs ys := by
  cases b <;> simp [same, sameAll_iff]

/-- The members of a set, frozen or not. -/
def setItems? : Value → Option (List Value)
  | .set items | .frozenSet items => some items
  | _ => none

theorem within_iff (xs ys : List Value) :
    within xs ys = true ↔ ∀ x ∈ xs, ∃ y ∈ ys, same x y = true := by
  induction xs with
  | nil => simp [within]
  | cons x xs ih => simp [within, ih]

theorem same_set_iff {a : Value} {xs : List Value} (h : a.setItems? = some xs) (b : Value) :
    same a b = true ↔ ∃ ys, b.setItems? = some ys ∧ xs.length = ys.length ∧
      ∀ x ∈ xs, ∃ y ∈ ys, same x y = true := by
  cases a with
  | set | frozenSet =>
    cases h
    cases b <;> simp [same, setItems?, within_iff]
  | _ => cases h

/-! ## Values that can be keys -/

/-- A value that can be a key of a map, and that is the same as itself: one that holds no others
and is not not-a-number, or a tuple or a frozen set of such. A frozen set holds no value twice. -/
inductive IsKey : Value → Prop
  | leaf {v : Value} {l : Leaf} (stands : v.leaf? = some l) : IsKey v
  | tuple {items : List Value} (keys : ∀ v ∈ items, IsKey v) : IsKey (.tuple items)
  | frozenSet {items : List Value} (keys : ∀ v ∈ items, IsKey v)
      (differ : items.Pairwise fun a b => (a == b) = false) : IsKey (.frozenSet items)

namespace IsKey

theorem refl {a : Value} (h : IsKey a) : same a a = true := by
  induction h with
  | leaf stands => exact (same_leaf_iff stands _).mpr stands
  | tuple _ ih => exact (same_tuple_iff _ _).mpr ⟨_, rfl, List.forall₂_same.mpr ih⟩
  | frozenSet _ _ ih =>
    exact (same_set_iff rfl _).mpr ⟨_, rfl, rfl, fun x hx => ⟨x, hx, ih x hx⟩⟩

theorem trans {a b c : Value} (h : IsKey a) (hab : same a b = true) (hbc : same b c = true) :
    same a c = true := by
  induction h generalizing b c with
  | leaf stands =>
    rw [same_leaf_iff stands] at hab ⊢
    exact (same_leaf_iff hab c).mp hbc
  | tuple _ ih =>
    rw [same_tuple_iff] at hab ⊢
    obtain ⟨ys, rfl, hxy⟩ := hab
    obtain ⟨zs, rfl, hyz⟩ := (same_tuple_iff ys c).mp hbc
    exact ⟨zs, rfl, forall₂_trans_of (fun x hx y z => ih x hx) hxy hyz⟩
  | frozenSet _ _ ih =>
    rw [same_set_iff rfl] at hab ⊢
    obtain ⟨ys, hb, hxy, hin⟩ := hab
    obtain ⟨zs, hc, hyz, hin'⟩ := (same_set_iff hb c).mp hbc
    refine ⟨zs, hc, hxy.trans hyz, fun x hx => ?_⟩
    obtain ⟨y, hy, hsame⟩ := hin x hx
    obtain ⟨z, hz, hsame'⟩ := hin' y hy
    exact ⟨z, hz, ih x hx hsame hsame'⟩

theorem symm {a b : Value} (h : IsKey a) (hab : same a b = true) : same b a = true := by
  induction h generalizing b with
  | leaf stands =>
    rw [same_leaf_iff stands] at hab
    exact (same_leaf_iff hab _).mpr stands
  | tuple _ ih =>
    obtain ⟨ys, rfl, hxy⟩ := (same_tuple_iff _ _).mp hab
    exact (same_tuple_iff _ _).mpr ⟨_, rfl, forall₂_symm_of (fun x hx y => ih x hx) hxy⟩
  | @frozenSet xs keys differ ih =>
    obtain ⟨ys, hb, hlength, hin⟩ := (same_set_iff rfl _).mp hab
    refine (same_set_iff hb _).mpr ⟨xs, rfl, hlength.symm, fun y hy => ?_⟩
    -- Two members of the first set cannot be the same as one of the second.
    have happart : xs.Pairwise fun a b => ∀ y, same a y = true → ¬ same b y = true := by
      refine differ.imp_of_mem fun {a b} ha hb hdiffer y hay hby => ?_
      have hsame : same a b = true := (keys a ha).trans hay (ih b hb hby)
      have hfalse : same a b = false := hdiffer
      simp [hsame] at hfalse
    obtain ⟨x, hx, hxy⟩ := covered_of_covers happart hin (Nat.le_of_eq hlength.symm) y hy
    exact ⟨x, hx, ih x hx hxy⟩

end IsKey

/-! ## Values that cannot be keys -/

/-- A list, a map or a set, also inside of a tuple. -/
inductive NoKey : Value → Prop
  | list (items : List Value) : NoKey (.list items)
  | map (entries : List (Value × Value)) : NoKey (.map entries)
  | set (items : List Value) : NoKey (.set items)
  | tuple {items : List Value} {v : Value} (mem : v ∈ items) (inside : NoKey v) :
      NoKey (.tuple items)

theorem firstUnhashable?_eq (vs : List Value) : firstUnhashable? vs = vs.findSome? unhashable? := by
  induction vs with
  | nil => rfl
  | cons v vs ih =>
    rw [firstUnhashable?, List.findSome?_cons, ih]
    cases unhashable? v <;> rfl

theorem noKey_of_unhashable? {v : Value} {type : String} (h : v.unhashable? = some type) :
    NoKey v := by
  match v with
  | .list items => exact .list items
  | .map entries => exact .map entries
  | .set items => exact .set items
  | .tuple items =>
    rw [unhashable?, firstUnhashable?_eq] at h
    obtain ⟨inner, hmem, hinner⟩ := List.exists_of_findSome?_eq_some h
    exact .tuple hmem (noKey_of_unhashable? hinner)
  | .null | .bool _ | .int _ | .float _ | .text _ | .bytes _ | .frozenSet _ | .direction _
  | .operator _ | .moment _ | .condition _ => simp [unhashable?] at h
termination_by sizeOf v

theorem NoKey.unhashable? {v : Value} (h : NoKey v) : v.unhashable?.isSome = true := by
  induction h with
  | list | map | set => simp [Value.unhashable?]
  | tuple hmem _ ih =>
    rw [Value.unhashable?, firstUnhashable?_eq, List.findSome?_isSome_iff]
    exact ⟨_, hmem, ih⟩

theorem IsKey.hashable {v : Value} (h : IsKey v) : v.unhashable? = none := by
  induction h with
  | @leaf v l stands =>
    cases v with
    | list | tuple | map | set | frozenSet => cases stands
    | _ => simp [unhashable?]
  | tuple _ ih =>
    rw [unhashable?, firstUnhashable?_eq, List.findSome?_eq_none_iff]
    exact ih
  | frozenSet => simp [unhashable?]

theorem IsKey.not_noKey {v : Value} (h : IsKey v) : ¬ NoKey v := by
  intro hnoKey
  simpa [h.hashable] using hnoKey.unhashable?

end Value

end SearchQuery
