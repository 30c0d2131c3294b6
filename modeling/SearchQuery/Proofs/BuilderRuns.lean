-- The laws of runs of calls on a builder: what the collected condition means is the fold of
-- what the calls say, however the builder nests or flattens the operands.
import SearchQuery.Builder
import SearchQuery.Proofs.Meanings

namespace SearchQuery

/-! ## Junctions that grow -/

namespace Joint

instance (j : Joint) : Std.Associative j.join := by
  cases j
  · exact inferInstanceAs (Std.Associative (· && ·))
  · exact inferInstanceAs (Std.Associative (· || ·))

theorem fold_snoc (j : Joint) (vs : List (Option Bool)) (v : Option Bool) :
    j.fold (vs ++ [v]) = Option.merge j.join (j.fold vs) v := by
  induction vs with
  | nil => simp [fold]
  | cons u us ih =>
    rw [List.cons_append, fold_cons, ih, fold_cons]
    exact (Std.Associative.assoc u (j.fold us) v).symm

end Joint

namespace Condition

variable (mode : FieldMode) (truth : String → Bool)

theorem meaning_junction (j : Joint) (operands : List Condition) :
    (compound j.word operands).meaning mode truth =
      j.fold (operands.map (meaning mode truth)) := by
  cases j <;> simp [meaning, Joint.word, Operator.ofName?, meaningAll_eq_map]

end Condition

namespace Builder

variable (mode : FieldMode) (truth : String → Bool)

/-- The verdict on what a builder asks for; a builder without a condition asks for nothing. -/
def verdict (b : Builder) : Option Bool := b.condition.bind (Condition.meaning mode truth)

/-- A further operand counts once, whether the current condition is flattened or nested. -/
theorem meaning_combine {o : Operator} {j : Joint} (hj : o.name = j.word) (node : Condition)
    (current : Option Condition) :
    (combine o node current).meaning mode truth =
      Option.merge j.join (current.bind (Condition.meaning mode truth))
        (node.meaning mode truth) := by
  have hpair : ∀ c : Condition, (Condition.compound o.name [c, node]).meaning mode truth =
      Option.merge j.join (c.meaning mode truth) (node.meaning mode truth) := by
    intro c
    rw [hj, Condition.meaning_junction]
    simp [Joint.fold]
  cases current with
  | none => simp [combine]
  | some c =>
    cases c with
    | literal text => exact hpair _
    | fields entries => exact hpair _
    | compound name operands =>
      rw [combine]
      split
      · next hname =>
        have hword : name = j.word := (beq_iff_eq.mp hname).trans hj
        rw [hword, Option.bind_some, Condition.meaning_junction, Condition.meaning_junction,
          List.map_append]
        exact j.fold_snoc _ _
      · exact hpair _

theorem verdict_add {o : Operator} {j : Joint} (hj : o.name = j.word) (b : Builder)
    (node : Condition) :
    (b.add o node).verdict mode truth =
      Option.merge j.join (b.verdict mode truth) (node.meaning mode truth) :=
  meaning_combine mode truth hj node b.condition

/-! ## Runs of calls -/

/-- The builder after a call; a call that fails counts as none. -/
def step (b : Builder) (c : Call) : Builder :=
  match b.apply c with
  | .ok b => b
  | .error _ => b

/-- The builder after several calls, one after the other. -/
def run (b : Builder) (calls : List Call) : Builder := calls.foldl step b

/-- What a call makes of the verdict so far. Only calls about the condition matter, and what
is left of nothing by a filter is no call. -/
def Call.verdict (value : Condition → Option Bool) (old : Option Bool) : Call → Option Bool
  | .condition .null => none
  | .condition v => value (Condition.ofValue v)
  | .andCondition v => Option.merge (· && ·) old (value (Condition.ofValue v))
  | .orCondition v => Option.merge (· || ·) old (value (Condition.ofValue v))
  | .filter v => ((Condition.ofValue v).filtered.map value).getD old
  | .andFilter v =>
    ((Condition.ofValue v).filtered.map fun c => Option.merge (· && ·) old (value c)).getD old
  | .orFilter v =>
    ((Condition.ofValue v).filtered.map fun c => Option.merge (· || ·) old (value c)).getD old
  | _ => old

/-- A call is refused if it is about the condition and a number in its value is too long to be
written. -/
def Call.isRefused : Call → Bool
  | .condition v | .andCondition v | .orCondition v | .filter v | .andFilter v | .orFilter v =>
    v.isOverlong
  | _ => false

theorem step_of_refused (b : Builder) {c : Call} (h : c.isRefused = true) : b.step c = b := by
  cases c with
  | condition v | andCondition v | orCondition v | filter v | andFilter v | orFilter v =>
    have hread := Condition.read_of_overlong (v := v) h
    unfold step apply
    cases v <;> simp [kept, hread, Except.map]
    all_goals cases h
  | _ => cases h

theorem verdict_step (b : Builder) {c : Call} (h : c.isRefused = false) :
    (b.step c).verdict mode truth =
      c.verdict (Condition.meaning mode truth) (b.verdict mode truth) := by
  have hadd := fun o j (h : Operator.name o = Joint.word j) => verdict_add mode truth h b
  cases c with
  | condition v =>
    have hread := Condition.read_of_short h
    cases v with
    | null => rfl
    | _ =>
      simp only [step, apply, hread]
      rfl
  | andCondition v =>
    simp only [step, apply, Condition.read_of_short h]
    exact hadd .and .all rfl _
  | orCondition v =>
    simp only [step, apply, Condition.read_of_short h]
    exact hadd .or .any rfl _
  | filter v =>
    simp only [step, apply, Call.verdict, kept, Condition.read_of_short h, Except.map]
    cases (Condition.ofValue v).filtered with
    | none => rfl
    | some node => rfl
  | andFilter v =>
    simp only [step, apply, Call.verdict, kept, Condition.read_of_short h, Except.map]
    cases (Condition.ofValue v).filtered with
    | none => rfl
    | some node => exact hadd .and .all rfl node
  | orFilter v =>
    simp only [step, apply, Call.verdict, kept, Condition.read_of_short h, Except.map]
    cases (Condition.ofValue v).filtered with
    | none => rfl
    | some node => exact hadd .or .any rfl node
  | orderBy v =>
    simp only [step, apply, Call.verdict]
    cases Columns.ofValue v <;> rfl
  | addOrderBy v =>
    simp only [step, apply, Call.verdict]
    cases Columns.ofValue v <;> rfl
  | limit v => rfl
  | offset v => rfl
  | fuzzy v => rfl
  | asArray v => rfl
  | indexBy v => rfl

theorem verdict_run (b : Builder) (calls : List Call) :
    (b.run calls).verdict mode truth =
      (calls.filter (!·.isRefused)).foldl (Call.verdict (Condition.meaning mode truth))
        (b.verdict mode truth) := by
  induction calls generalizing b with
  | nil => rfl
  | cons c calls ih =>
    rw [run, List.foldl_cons, ← run, ih]
    cases hc : c.isRefused with
    | true => rw [step_of_refused b hc, List.filter_cons_of_neg (by simp [hc])]
    | false =>
      rw [verdict_step mode truth b hc, List.filter_cons_of_pos (by simp [hc]), List.foldl_cons]

/-- A run of calls means their fold. What a new builder asks for after any calls is what the
calls make of nothing one after the other, those apart that are refused for a number too long
to be written; and an operand that is added to a builder in any state, flattened or not, is
joined with what the builder asked for before. -/
theorem a_run_of_calls_means_their_fold (calls : List Call) :
    (run {} calls).verdict mode truth =
        (calls.filter (!·.isRefused)).foldl
          (Call.verdict (Condition.meaning mode truth)) none ∧
      ∀ (b : Builder) (node : Condition),
        (b.add .and node).verdict mode truth =
            Option.merge (· && ·) (b.verdict mode truth) (node.meaning mode truth) ∧
          (b.add .or node).verdict mode truth =
            Option.merge (· || ·) (b.verdict mode truth) (node.meaning mode truth) :=
  ⟨verdict_run mode truth {} calls, fun b node =>
    ⟨verdict_add mode truth (j := .all) rfl b node, verdict_add mode truth (j := .any) rfl b node⟩⟩

end Builder

end SearchQuery
