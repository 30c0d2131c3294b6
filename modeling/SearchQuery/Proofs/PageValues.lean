-- Limits and offsets on two ways into a window: as they are, and checked by the builder
-- first. The check makes numbers of booleans, floats and bytes, none of which has an effect
-- as it is; all other values have the same effect on both ways.
import SearchQuery.Proofs.Preparations

namespace SearchQuery

/-! ## The effect of a value -/

namespace Page

/-- What a value does as a limit: its number, if it has an effect. -/
def limit? (v : Value) : Option (Except Fault Int) := if hasLimit v then some (number v) else none

/-- What a value does as an offset: its number, if it has an effect. -/
def offset? (v : Value) : Option (Except Fault Int) :=
  if hasOffset v then some (number v) else none

/-- The window that a limit and an offset make, told by what they do. -/
def windowOf (limit offset : Option (Except Fault Int)) : Except Fault (Option (Int × Int)) :=
  match limit with
  | none => .ok none
  | some size => do
    let l ← size
    let o ← offset.getD (.ok 0)
    .ok (some (l, o))

theorem window?_eq (limit offset : Value) :
    window? limit offset = windowOf (limit? limit) (offset? offset) := by
  unfold window? limit? offset?
  by_cases hlimit : hasLimit limit = true
  · by_cases hoffset : hasOffset offset = true
    · simp [hlimit, hoffset, windowOf]
    · have hzero : number (.int 0) = .ok 0 := rfl
      simp [hlimit, hoffset, hzero, windowOf]
  · simp [hlimit, windowOf]

end Page

/-! ## The check of a value -/

/-- The check of a limit or an offset makes another value of it, a number if it can. -/
def Value.isConverted : Value → Bool
  | .bool _ | .float _ | .bytes _ => true
  | _ => false

/-- All that the check of a bound can do: it converts the value, it keeps its characters, or
it keeps the value. -/
theorem Check.bound_cases {v : Value} {b : Check.Bound} (h : Check.bound v = .ok b) :
    v.isConverted = true ∨ (∃ s, v.text? = some s ∧ b.toValue = .text s) ∨ b.toValue = v := by
  cases v with
  | bool | float | bytes => exact Or.inl rfl
  | null | int =>
    cases h
    exact Or.inr (Or.inr rfl)
  | text | direction | operator =>
    cases h
    exact Or.inr (Or.inl ⟨_, rfl, rfl⟩)
  | list | tuple | map | set | frozenSet | moment | condition => cases h

namespace Page

/-- A value that the check converts has no effect as it is. -/
theorem no_effect_of_converted {v : Value} (h : v.isConverted = true) :
    limit? v = none ∧ offset? v = none := by
  cases v with
  | bool | float | bytes => exact ⟨rfl, rfl⟩
  | null | int | text | list | tuple | map | set | frozenSet | direction | operator | moment
  | condition => cases h

/-- A value does what its characters do. -/
theorem effect_of_text {v : Value} {s : String} (h : v.text? = some s) :
    limit? (.text s) = limit? v ∧ offset? (.text s) = offset? v := by
  cases v <;> cases h <;> exact ⟨rfl, rfl⟩

/-- A value that is not converted does the same before and behind the check. -/
theorem effect_of_kept {v : Value} {b : Check.Bound} (h : Check.bound v = .ok b)
    (hkept : v.isConverted = false) :
    limit? b.toValue = limit? v ∧ offset? b.toValue = offset? v := by
  obtain hconverted | ⟨s, htext, hb⟩ | hb := Check.bound_cases h
  · rw [hkept] at hconverted
    contradiction
  · rw [hb]
    exact effect_of_text htext
  · rw [hb]
    exact ⟨rfl, rfl⟩

/-- The check changes what a limit does exactly if it converts it to one with an effect. -/
theorem limit?_of_bound {v : Value} {b : Check.Bound} (h : Check.bound v = .ok b) :
    limit? b.toValue = limit? v ↔ (v.isConverted = true → hasLimit b.toValue = false) := by
  cases hv : v.isConverted with
  | false => simp [effect_of_kept h hv]
  | true =>
    rw [(no_effect_of_converted hv).1]
    simp [limit?]

/-- The same for an offset. -/
theorem offset?_of_bound {v : Value} {b : Check.Bound} (h : Check.bound v = .ok b) :
    offset? b.toValue = offset? v ↔ (v.isConverted = true → hasOffset b.toValue = false) := by
  cases hv : v.isConverted with
  | false => simp [effect_of_kept h hv]
  | true =>
    rw [(no_effect_of_converted hv).2]
    simp [offset?]

end Page

/-! ## The window of a query that was built -/

/-- Preparing a query puts this window on a new request and tells it; if a number of the
window cannot be read, it fails with that and leaves the request new. -/
def Spec.Pushes (spec : Spec) (window? : Except Fault (Option (Int × Int))) : Prop :=
  ∀ (mode : FieldMode) (index : Option String),
    let done := spec.prepare mode { index }
    match window? with
    | .error fault => done = (.error fault, { index })
    | .ok window =>
      (done.2.limit, done.2.offset) = (window.map Page.parts).getD (.null, .int 0) ∧
        ∀ p, done.1 = .ok p → p.window = window

theorem Spec.pushes_window (spec : Spec) : spec.Pushes spec.window? := by
  intro mode index
  have hparts := spec.prepare_window mode { index }
  obtain ⟨_, hw, h⟩ | ⟨_, _, hw, _, h⟩ | ⟨_, _, hw, _, h⟩ := spec.prepare_cases mode { index }
  · rw [hw]
    exact h
  · rw [writesWindow?, hw] at hparts
    rw [hw]
    refine ⟨hparts, ?_⟩
    rw [h]
    rintro p ⟨⟩
  · rw [writesWindow?, hw] at hparts
    rw [hw]
    refine ⟨hparts, ?_⟩
    rw [h]
    rintro p ⟨⟩
    rfl

namespace Builder

/-- A limit or an offset does the same when the builder has checked it, unless the check made
it a number with an effect of a boolean, a float or bytes; those have no effect themselves.
Where both do the same, the query that was built pushes the window of the values as given. -/
theorem page_values_do_the_same_unless_converted {b : Builder} {spec : Spec}
    (h : b.build = .ok spec) :
    (Page.limit? spec.limit.toValue = Page.limit? b.limit ↔
      (b.limit.isConverted = true → Page.hasLimit spec.limit.toValue = false)) ∧
    (Page.offset? spec.offset.toValue = Page.offset? b.offset ↔
      (b.offset.isConverted = true → Page.hasOffset spec.offset.toValue = false)) ∧
    (Page.limit? spec.limit.toValue = Page.limit? b.limit →
      Page.offset? spec.offset.toValue = Page.offset? b.offset →
      spec.Pushes (Page.window? b.limit b.offset)) ∧
    ∀ v : Value, v.isConverted = true → Page.limit? v = none ∧ Page.offset? v = none := by
  obtain ⟨-, -, hlimit, hoffset, -⟩ := parts_of_build h
  refine ⟨Page.limit?_of_bound hlimit, Page.offset?_of_bound hoffset, fun hl ho => ?_,
    fun v => Page.no_effect_of_converted⟩
  have hwindow : spec.window? = Page.window? b.limit b.offset := by
    rw [Spec.window?, Page.window?_eq, Page.window?_eq, hl, ho]
  rw [← hwindow]
  exact spec.pushes_window

/-- Ten in digits is a limit and no as an offset has no effect, on both ways. -/
theorem ten_results_from_the_first_are_built_as_given :
    let b : Builder := { limit := .text "10", offset := .bool false }
    let spec : Spec := { limit := .word "10", offset := .number 0 }
    b.build = .ok spec ∧ Page.window? b.limit b.offset = .ok (some (10, 0)) ∧
      spec.Pushes (Page.window? b.limit b.offset) := by
  have hbuild : build { limit := .text "10", offset := .bool false } =
      .ok { limit := .word "10", offset := .number 0 } := rfl
  obtain ⟨hlimit, hoffset, hpushes, -⟩ := page_values_do_the_same_unless_converted hbuild
  exact ⟨hbuild, rfl, hpushes (hlimit.mpr (by decide)) (hoffset.mpr (by decide))⟩

/-- Yes is no limit as it is, but the builder makes a limit of one of it. -/
theorem yes_is_built_into_a_limit_of_one :
    let b : Builder := { limit := .bool true }
    let spec : Spec := { limit := .number 1 }
    b.build = .ok spec ∧ Page.window? b.limit b.offset = .ok none ∧
      spec.Pushes (.ok (some (1, 0))) ∧ ¬ spec.Pushes (Page.window? b.limit b.offset) := by
  refine ⟨rfl, rfl, Spec.pushes_window { limit := .number 1 }, fun h => ?_⟩
  obtain ⟨hparts, -⟩ := h .firstAlternatives none
  cases hparts

end Builder

end SearchQuery
