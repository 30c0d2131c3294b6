-- Queries prepared one after the other on one request. The window, the sort columns and the
-- query text that a request ends with are each those of the last query that came so far; it
-- becomes fuzzy once and stays so.
import SearchQuery.Proofs.SessionRuns

namespace SearchQuery

/-! ## Views of a run -/

/-- What a run of steps leaves in a view of the state that each step either writes or keeps:
what was written last. -/
theorem view_foldl {σ α β : Type} {step : σ → α → σ} (view : σ → β) {written? : α → Option β}
    (h : ∀ s a, view (step s a) = (written? a).getD (view s)) (s : σ) (as : List α) :
    view (as.foldl step s) = (as.filterMap written?).getLastD (view s) := by
  induction as generalizing s with
  | nil => rfl
  | cons a as ih =>
    rw [List.foldl_cons, ih, h]
    cases ha : written? a with
    | none => rw [List.filterMap_cons_none ha, Option.getD_none]
    | some b => rw [List.filterMap_cons_some ha, List.getLastD_cons, Option.getD_some]

/-- Where only one value is ever written, it is there behind a run if it was or anything was
written. -/
theorem getLastD_eq_iff {α : Type} {as : List α} {a b : α} (h : ∀ c ∈ as, c = a) :
    as.getLastD b = a ↔ b = a ∨ as ≠ [] := by
  rcases as.eq_nil_or_concat with rfl | ⟨front, c, rfl⟩
  · simp
  · simp [h c (by simp)]

/-! ## The parts of a request -/

/-- Sort columns as the parts of a request. -/
def Columns.parts (columns : List (String × Bool)) : List (Value × Value) :=
  columns.map fun (name, up) => (.text name, .bool up)

namespace Request

/-- A request sorted by the setter for one column or by that for several. -/
def sortedBy (r : Request) : List (String × Bool) → Except Fault Request
  | [] => .ok r
  | [(name, up)] => .ok (r.setSort (.text name) (.bool up))
  | columns => r.setMultiSort (.map (Columns.parts columns))

/-- Both setters leave the same behind. -/
theorem sortedBy_eq (r : Request) (columns : List (String × Bool)) :
    r.sortedBy columns = .ok (r.applySort columns) := by
  match columns with
  | [] => rfl
  | [_] => rfl
  | _ :: _ :: _ => rfl

theorem applySort_sort (r : Request) (columns : List (String × Bool)) :
    (r.applySort columns).sort = if columns = [] then r.sort else Columns.parts columns := by
  cases columns <;> rfl

theorem applySort_others (r : Request) (columns : List (String × Bool)) :
    r.applySort columns = { r with sort := (r.applySort columns).sort } := by
  cases columns <;> rfl

theorem withQuery_eq (r : Request) (query : String) (fuzzy : Bool) :
    r.withQuery query fuzzy =
      { r with query := .text query, fuzzy := if fuzzy then .bool true else r.fuzzy } := by
  cases fuzzy <;> rfl

end Request

/-- A window as the parts of a request. -/
def Page.parts : Int × Int → Value × Value
  | (limit, offset) => (.int limit, .int offset)

theorem Page.push_eq (r : Request) (window : Option (Int × Int)) :
    Page.push r window =
      { r with
        limit := ((window.map Page.parts).getD (r.limit, r.offset)).1
        offset := ((window.map Page.parts).getD (r.limit, r.offset)).2 } := by
  cases window <;> rfl

/-! ## One preparation -/

namespace Spec

/-- The window of a query: none without a limit that has an effect, and a fault if a number
cannot be read. -/
def window? (spec : Spec) : Except Fault (Option (Int × Int)) :=
  Page.window? spec.limit.toValue spec.offset.toValue

/-- The limit and the offset that preparing a query writes into a request. -/
def writesWindow? (spec : Spec) : Option (Value × Value) :=
  match spec.window? with
  | .ok window => window.map Page.parts
  | .error _ => none

/-- The sort that preparing a query writes into a request: each column, and whether its
direction is another than descending. -/
def writesSort? (spec : Spec) : Option (List (Value × Value)) :=
  match spec.window? with
  | .ok _ =>
    if spec.columns = [] then none
    else some (spec.columns.map fun (name, d) => (.text name, .bool (d != .descending)))
  | .error _ => none

/-- The text of a query that can be prepared to the end. -/
def text? (mode : FieldMode) (spec : Spec) : Option String :=
  match spec.window?, Condition.compileWhere mode spec.condition with
  | .ok _, .ok text => some text
  | _, _ => none

variable (mode : FieldMode) (spec : Spec) (r : Request)

/-- All that a preparation can do: it fails at the window and does nothing, it fails at the
query text behind window and sort, or it goes through. -/
theorem prepare_cases :
    (∃ fault, spec.window? = .error fault ∧ spec.prepare mode r = (.error fault, r)) ∨
    (∃ window fault, spec.window? = .ok window ∧
      Condition.compileWhere mode spec.condition = .error fault ∧
      spec.prepare mode r =
        (.error fault, (Page.push r window).applySort spec.columns.pushed)) ∨
    ∃ window text, spec.window? = .ok window ∧
      Condition.compileWhere mode spec.condition = .ok text ∧
      spec.prepare mode r =
        (.ok { query := text, sort := spec.columns.pushed, window, fuzzy := spec.fuzzy },
          ((Page.push r window).applySort spec.columns.pushed).withQuery text spec.fuzzy) := by
  unfold prepare window?
  cases Page.window? spec.limit.toValue spec.offset.toValue with
  | error fault => exact Or.inl ⟨fault, rfl, rfl⟩
  | ok window =>
    cases Condition.compileWhere mode spec.condition with
    | error fault => exact Or.inr (Or.inl ⟨window, fault, rfl, rfl, rfl⟩)
    | ok text => exact Or.inr (Or.inr ⟨window, text, rfl, rfl, rfl⟩)

theorem prepare_index : (spec.prepare mode r).2.index = r.index := by
  obtain ⟨_, _, h⟩ | ⟨_, _, _, _, h⟩ | ⟨_, _, _, _, h⟩ := spec.prepare_cases mode r
  · rw [h]
  · rw [h, Request.applySort_others, Page.push_eq]
  · rw [h, Request.withQuery_eq, Request.applySort_others, Page.push_eq]

theorem prepare_window :
    ((spec.prepare mode r).2.limit, (spec.prepare mode r).2.offset) =
      spec.writesWindow?.getD (r.limit, r.offset) := by
  obtain ⟨_, hw, h⟩ | ⟨_, _, hw, _, h⟩ | ⟨_, _, hw, _, h⟩ := spec.prepare_cases mode r
  · rw [h, writesWindow?, hw]
    rfl
  · rw [h, writesWindow?, hw, Request.applySort_others, Page.push_eq]
  · rw [h, writesWindow?, hw, Request.withQuery_eq, Request.applySort_others, Page.push_eq]

theorem prepare_sort : (spec.prepare mode r).2.sort = spec.writesSort?.getD r.sort := by
  have hsort : ∀ window, ((Page.push r window).applySort spec.columns.pushed).sort =
      (if spec.columns = [] then none
        else some (spec.columns.map fun (name, d) =>
          (Value.text name, Value.bool (d != .descending)))).getD r.sort := by
    intro window
    rw [Request.applySort_sort, Page.push_eq]
    by_cases hcolumns : spec.columns = [] <;>
      simp [Columns.pushed, Columns.parts, hcolumns]
  obtain ⟨_, hw, h⟩ | ⟨_, _, hw, _, h⟩ | ⟨_, _, hw, _, h⟩ := spec.prepare_cases mode r
  · rw [h, writesSort?, hw]
    rfl
  · rw [h, writesSort?, hw]
    exact hsort _
  · rw [h, writesSort?, hw, Request.withQuery_eq]
    exact hsort _

theorem prepare_query :
    (spec.prepare mode r).2.query = ((spec.text? mode).map .text).getD r.query := by
  obtain ⟨_, hw, h⟩ | ⟨_, _, hw, hq, h⟩ | ⟨_, _, hw, hq, h⟩ := spec.prepare_cases mode r
  · rw [h, text?, hw]
    rfl
  · rw [h, text?, hw, hq, Request.applySort_others, Page.push_eq]
    rfl
  · rw [h, text?, hw, hq, Request.withQuery_eq]
    rfl

/-- What preparing a query writes of the flag for fuzzy matching: only ever yes. -/
def writesFuzzy? (spec : Spec) : Option Value :=
  if spec.fuzzy && (spec.text? mode).isSome then some (.bool true) else none

theorem prepare_fuzzy :
    (spec.prepare mode r).2.fuzzy = (spec.writesFuzzy? mode).getD r.fuzzy := by
  obtain ⟨_, hw, h⟩ | ⟨_, _, hw, hq, h⟩ | ⟨_, _, hw, hq, h⟩ := spec.prepare_cases mode r
  · rw [h, writesFuzzy?, text?, hw]
    simp
  · rw [h, writesFuzzy?, text?, hw, hq, Request.applySort_others, Page.push_eq]
    simp
  · rw [h, writesFuzzy?, text?, hw, hq, Request.withQuery_eq, Request.applySort_others,
      Page.push_eq]
    cases spec.fuzzy <;> rfl

/-- A request is fuzzy behind a run if it was before, or a fuzzy query went through. -/
theorem fuzzy_foldl (specs : List Spec) :
    (specs.foldl (fun r spec => (spec.prepare mode r).2) r).fuzzy = .bool true ↔
      r.fuzzy = .bool true ∨ ∃ spec ∈ specs, spec.fuzzy = true ∧ (spec.text? mode).isSome := by
  have hyes : ∀ v ∈ specs.filterMap (writesFuzzy? mode), v = .bool true := by
    intro v hv
    obtain ⟨spec, -, hspec⟩ := List.mem_filterMap.mp hv
    rw [writesFuzzy?, Option.ite_none_right_eq_some] at hspec
    exact (Option.some.inj hspec.2).symm
  have hany : specs.filterMap (writesFuzzy? mode) ≠ [] ↔
      ∃ spec ∈ specs, spec.fuzzy = true ∧ (spec.text? mode).isSome := by
    simp [writesFuzzy?, Option.isSome_iff_ne_none]
  rw [view_foldl Request.fuzzy (fun r spec => spec.prepare_fuzzy mode r) r specs,
    getLastD_eq_iff hyes, hany]

end Spec

/-- What a run of preparations leaves of a request: of each part what was written last, and
the flag for fuzzy matching if it was there or any fuzzy query went through. -/
structure Request.LeftBy (mode : FieldMode) (specs : List Spec) (before after : Request) :
    Prop where
  index : after.index = before.index
  window : (after.limit, after.offset) =
    (specs.filterMap Spec.writesWindow?).getLastD (before.limit, before.offset)
  sort : after.sort = (specs.filterMap Spec.writesSort?).getLastD before.sort
  query : after.query =
    (specs.filterMap fun spec => (spec.text? mode).map .text).getLastD before.query
  fuzzy : after.fuzzy = .bool true ↔ before.fuzzy = .bool true ∨
    ∃ spec ∈ specs, spec.fuzzy = true ∧ (spec.text? mode).isSome

theorem Request.leftBy_foldl (mode : FieldMode) (specs : List Spec) (r : Request) :
    LeftBy mode specs r (specs.foldl (fun r spec => (spec.prepare mode r).2) r) where
  index := by
    have hindex : ∀ (r : Request) (spec : Spec), (spec.prepare mode r).2.index =
        (none : Option (Option String)).getD r.index := fun r spec => spec.prepare_index mode r
    simpa using view_foldl Request.index hindex r specs
  window := view_foldl (fun r : Request => (r.limit, r.offset))
    (fun r spec => spec.prepare_window mode r) r specs
  sort := view_foldl Request.sort (fun r spec => spec.prepare_sort mode r) r specs
  query := view_foldl Request.query (fun r spec => spec.prepare_query mode r) r specs
  fuzzy := Spec.fuzzy_foldl mode r specs

/-! ## Preparations in a session -/

namespace Session

theorem perform_prepareKept (spec : Spec) (s : Session) (w : World) :
    perform (prepareKept spec) s w =
      match spec.prepare s.mode (s.kept.getD {}) with
      | (.ok prepared, r) =>
        ((.ok (prepared, r), { s with kept := some r, query := some prepared.query }), w)
      | (.error fault, r) => ((.error fault, { s with kept := some r }), w) := by
  unfold prepareKept
  rw [perform_bind, perform_look]
  dsimp only
  rcases spec.prepare s.mode (s.kept.getD {}) with ⟨outcome, r⟩
  cases outcome with
  | ok prepared => rfl
  | error fault => rfl

/-- Session and outside after one more query was prepared, well or not. -/
def afterPreparation : Session × World → Spec → Session × World
  | (s, w), spec => ((perform (prepareKept spec) s w).1.2, (perform (prepareKept spec) s w).2)

/-- Session and outside after queries were prepared one after the other. One that fails does
not stop the next ones. -/
def afterPreparations (s : Session) (w : World) (specs : List Spec) : Session × World :=
  specs.foldl afterPreparation (s, w)

/-- A preparation changes the request that is kept, and the query text if it goes through. -/
theorem afterPreparation_eq (spec : Spec) (s : Session) (r : Request) (w : World) :
    afterPreparation ({ s with kept := some r }, w) spec =
      ({ s with
          kept := some (spec.prepare s.mode r).2
          query := ((spec.text? s.mode).map some).getD s.query }, w) := by
  rw [afterPreparation, perform_prepareKept, Option.getD_some, Spec.text?]
  obtain ⟨_, hw, h⟩ | ⟨_, _, hw, hq, h⟩ | ⟨_, _, hw, hq, h⟩ := spec.prepare_cases s.mode r
  · rw [h, hw]
    rfl
  · rw [h, hw, hq]
    rfl
  · rw [h, hw, hq]
    rfl

theorem afterPreparations_eq (specs : List Spec) (s : Session) (r : Request) (w : World) :
    afterPreparations { s with kept := some r } w specs =
      ({ s with
          kept := some (specs.foldl (fun r spec => (spec.prepare s.mode r).2) r)
          query := specs.foldl (fun q spec => ((spec.text? s.mode).map some).getD q) s.query },
        w) := by
  induction specs generalizing s r with
  | nil => rfl
  | cons spec specs ih =>
    rw [afterPreparations, List.foldl_cons, afterPreparation_eq, ← afterPreparations]
    exact ih { s with query := ((spec.text? s.mode).map some).getD s.query } _

end Session

/-- What is told of a preparation agrees with what it did to the request. -/
structure Prepared.Agrees (p : Prepared) (before after : Request) : Prop where
  index : after.index = before.index
  window : (after.limit, after.offset) =
    (p.window.map Page.parts).getD (before.limit, before.offset)
  sort : after.sort = if p.sort = [] then before.sort else Columns.parts p.sort
  query : after.query = .text p.query
  fuzzy : after.fuzzy = if p.fuzzy then .bool true else before.fuzzy

theorem Prepared.agrees (r : Request) (p : Prepared) :
    p.Agrees r (((Page.push r p.window).applySort p.sort).withQuery p.query p.fuzzy) := by
  rw [Request.withQuery_eq, Request.applySort_others, Request.applySort_sort, Page.push_eq]
  exact ⟨rfl, rfl, rfl, rfl, rfl⟩

namespace Session

/-- A run of preparations leaves in the request the last window, the last sort and the last
query text that came so far, which is the query text of the session too, and the request is
fuzzy if it was or any query that went through is. As to each single one: failing at the
window it changes nothing; failing at the query text it leaves query and fuzziness alone; and
going through, what it tells is what it did, by whichever setter the columns were sorted. -/
theorem a_run_of_preparations_leaves_the_last_of_each (specs : List Spec) (s : Session)
    (r : Request) (w : World) :
    (∃ r' : Request,
      afterPreparations { s with kept := some r } w specs =
        ({ s with
            kept := some r'
            query := (specs.filterMap fun spec => (spec.text? s.mode).map some).getLastD s.query },
          w) ∧
      r.LeftBy s.mode specs r') ∧
    ∀ spec : Spec,
      let done := perform (prepareKept spec) { s with kept := some r } w
      match spec.window?, Condition.compileWhere s.mode spec.condition with
      | .error fault, _ => done = ((.error fault, { s with kept := some r }), w)
      | .ok _, .error fault =>
        ∃ r' : Request, done = ((.error fault, { s with kept := some r' }), w) ∧
          r'.query = r.query ∧ r'.fuzzy = r.fuzzy
      | .ok window, .ok text =>
        ∃ (p : Prepared) (sorted r' : Request),
          done = ((.ok (p, r'), { s with kept := some r', query := some text }), w) ∧
          p = {
            query := text
            sort := spec.columns.map fun (name, d) => (name, d != .descending)
            window, fuzzy := spec.fuzzy } ∧
          p.Agrees r r' ∧
          (Page.push r window).sortedBy p.sort = .ok sorted ∧ r'.sort = sorted.sort := by
  have hquery : specs.foldl (fun q spec => ((spec.text? s.mode).map some).getD q) s.query =
      (specs.filterMap fun spec => (spec.text? s.mode).map some).getLastD s.query :=
    view_foldl id (fun q spec => rfl) s.query specs
  refine ⟨⟨_, hquery ▸ afterPreparations_eq specs s r w, r.leftBy_foldl s.mode specs⟩,
    fun spec => ?_⟩
  dsimp only
  rw [perform_prepareKept, Option.getD_some]
  obtain ⟨_, hw, h⟩ | ⟨window, _, hw, hq, h⟩ | ⟨window, text, hw, hq, h⟩ :=
    spec.prepare_cases s.mode r
  · rw [hw, h]
  · rw [hw, hq, h]
    refine ⟨_, rfl, ?_, ?_⟩
    · rw [Request.applySort_others, Page.push_eq]
    · rw [Request.applySort_others, Page.push_eq]
  · rw [hw, hq, h]
    refine ⟨_, _, _, rfl, rfl, Prepared.agrees r _, Request.sortedBy_eq _ _, ?_⟩
    rw [Request.withQuery_eq]

end Session

end SearchQuery
