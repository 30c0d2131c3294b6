-- The law of fresh requests: whatever a session did before, its next query brings to the
-- engine the request that a new request of the same index is prepared to, and nothing else.
import SearchQuery.Proofs.SessionRuns

namespace SearchQuery

variable {α β : Type}

namespace Session

/-! ## Steps of a session that bring requests -/

/-- The step of a session brings no request to an engine. -/
abbrev Silent (r : Run α) : Prop := Keeps (fun _ w => w.received) r

/-- The step of a session brings one request to an engine. -/
def Asks (x : Received) (r : Run α) : Prop :=
  ∀ s w, (perform r s w).2.received = w.received ++ [x]

theorem Asks.andThen {x : Received} {r : Run α} {f : α → Run β} (hr : Asks x r)
    (hf : ∀ a, Silent (f a)) : Asks x (r >>= f) := fun s w => by
  have hfirst := hr s w
  rw [perform_bind]
  rcases hp : perform r s w with ⟨⟨outcome, s'⟩, w'⟩
  rw [hp] at hfirst
  cases outcome with
  | ok a => exact (hf a s' w').trans hfirst
  | error fault => exact hfirst

theorem silent_outside {p : Act α} (hp : Quiet p) : Silent (liftM p) :=
  Keeps.outside fun _ w => hp w

theorem asks_onEngine {x : Received} {step : Step α} (h : Brings x step.run) :
    Asks x (onEngine step) := fun _ w => h w

theorem silent_shape (spec : Spec) (rows : List Fields) : Silent (shape spec rows) := by
  unfold shape
  refine Keeps.andThen Keeps.look fun s => ?_
  split
  · exact Keeps.done _
  · split
    · exact Keeps.done _
    · refine Keeps.andThen (Keeps.checked _) fun records => ?_
      exact Keeps.andThen (silent_outside (path_quiet.announce trivial _ _)) fun _ => Keeps.done _

/-! ## The request of a query -/

/-- The request that a query is prepared to on a new request of the index; none if that
fails. -/
def freshRequest? (p : Plan) (spec : Spec) : Option Request :=
  match spec.prepare p.mode { index := p.type.map (·.indexName) } with
  | (.ok _, r) => some r
  | (.error _, _) => none

/-- What a run looks for: the first result is found by a limit of its own. -/
def Ask.narrowed : Ask → Spec → Spec
  | .one, spec => { spec with limit := .number 1 }
  | .all, spec | .count, spec => spec

/-- What an engine receives for a run. -/
def Ask.received : Ask → Request → Received
  | .one, r | .all, r => .search r
  | .count, r => .count r

/-- What an engine should receive for a run, told from what the session asks for alone;
nothing if the query cannot be built or not be prepared. -/
def Ask.fresh? (a : Ask) (p : Plan) : Option Received :=
  match p.builder.build with
  | .ok spec => (freshRequest? p (a.narrowed spec)).map a.received
  | .error _ => none

/-- The connection is open or can be opened now. -/
def opens (s : Session) (w : World) : Bool :=
  match (s.connection.ready.run w).1.1 with
  | .ok _ => true
  | .error _ => false

theorem perform_prepareOn (spec : Spec) (r : Request) (s : Session) (w : World) :
    perform (prepareOn spec r) s w =
      match spec.prepare s.mode r with
      | (.ok prepared, r) =>
        ((.ok (prepared, r), { s with query := some prepared.query }), w)
      | (.error fault, _) => ((.error fault, s), w) := by
  unfold prepareOn
  rw [perform_bind, perform_look]
  dsimp only
  rcases spec.prepare s.mode r with ⟨outcome, r'⟩
  cases outcome with
  | ok prepared => rfl
  | error fault => rfl

/-- A step that opens the connection, prepares a new request and goes on from there. -/
theorem perform_opened (rest : Engine → Prepared × Request → Run α) (spec : Spec) (s : Session)
    (w : World) :
    perform (do
        let e ← engine
        let made ← prepareOn spec { index := (← get).index }
        rest e made) s w =
      match s.connection.ready.run w with
      | ((.error fault, c), w) => ((.error fault, { s with connection := c }), w)
      | ((.ok e, c), w) =>
        match spec.prepare s.mode { index := s.index } with
        | (.error fault, _) => ((.error fault, { s with connection := c }), w)
        | (.ok prepared, r) =>
          perform (rest e (prepared, r))
            { s with connection := c, query := some prepared.query } w := by
  rw [perform_bind, perform_engine]
  rcases s.connection.ready.run w with ⟨⟨outcome, c⟩, w'⟩
  cases outcome with
  | error fault => rfl
  | ok e =>
    dsimp only
    rw [perform_bind_ok (perform_look _ _), perform_bind, perform_prepareOn]
    -- The session differs from `s` in its connection alone, which no request is made of.
    unfold index
    dsimp only
    rcases spec.prepare s.mode _ with ⟨outcome, r⟩
    cases outcome <;> rfl

/-- Such a step brings one request, if the connection opens and the query is prepared. -/
theorem received_opened {x : Request → Received} {rest : Engine → Prepared × Request → Run α}
    (hrest : ∀ e prepared r, Asks (x r) (rest e (prepared, r))) (spec : Spec) (s : Session)
    (w : World) :
    (perform (do
        let e ← engine
        let made ← prepareOn spec { index := (← get).index }
        rest e made) s w).2.received =
      w.received ++
        if opens s w then ((freshRequest? s.plan spec).map x).toList else [] := by
  have hquiet := s.connection.quiet_ready w
  rw [perform_opened]
  unfold opens
  rcases hr : s.connection.ready.run w with ⟨⟨outcome, connection⟩, w'⟩
  rw [hr] at hquiet
  cases outcome with
  | error fault => simpa using hquiet
  | ok e =>
    have hfresh : freshRequest? s.plan spec =
        match spec.prepare s.mode { index := s.index } with
        | (.ok _, r) => some r
        | (.error _, _) => none := rfl
    dsimp only
    rw [hfresh]
    rcases spec.prepare s.mode _ with ⟨outcome, r⟩
    cases outcome with
    | error fault => simpa using hquiet
    | ok prepared =>
      exact (hrest e prepared r _ w').trans (congrArg (· ++ [x r]) hquiet)

/-! ## The runs of a query -/

/-- A step after which nothing more is brought to an engine. -/
theorem received_followed {r : Run α} {f : α → Run β} (hf : ∀ a, Silent (f a)) (s : Session)
    (w : World) : (perform (r >>= f) s w).2.received = (perform r s w).2.received := by
  rw [perform_bind]
  rcases perform r s w with ⟨⟨outcome, s'⟩, w'⟩
  cases outcome with
  | ok a => exact hf a s' w'
  | error fault => rfl

theorem received_rows (spec : Spec) (s : Session) (w : World) :
    (perform (rows spec) s w).2.received =
      w.received ++
        if opens s w then ((freshRequest? s.plan spec).map .search).toList else [] := by
  refine received_opened (fun e prepared r => ?_) spec s w
  refine Asks.andThen (asks_onEngine (e.brings_searchNoted r)) fun hits => ?_
  exact Keeps.andThen (silent_outside (quiet_report _ _ _)) fun _ => Keeps.done _

theorem received_fetchOne (spec : Spec) (s : Session) (w : World) :
    (perform (fetchOne spec) s w).2.received =
      w.received ++
        if opens s w then
          ((freshRequest? s.plan { spec with limit := .number 1 }).map .search).toList
        else [] := by
  rw [← received_rows]
  refine received_followed (fun found => ?_) s w
  split
  · exact Keeps.done _
  · exact Keeps.andThen (silent_shape _ _) fun _ => Keeps.done _

theorem received_fetchAll (spec : Spec) (s : Session) (w : World) :
    (perform (fetchAll spec) s w).2.received =
      w.received ++
        if opens s w then ((freshRequest? s.plan spec).map .search).toList else [] := by
  rw [← received_rows]
  refine received_followed (fun rows => ?_) s w
  refine Keeps.andThen (silent_shape _ _) fun found => ?_
  split
  · exact Keeps.done _
  · split
    · exact Keeps.done _
    · exact Keeps.andThen (Keeps.checked _) fun _ => Keeps.done _

theorem received_fetchCount (spec : Spec) (s : Session) (w : World) :
    (perform (fetchCount spec) s w).2.received =
      w.received ++
        if opens s w then ((freshRequest? s.plan spec).map .count).toList else [] := by
  refine received_opened (fun e prepared r => ?_) spec s w
  refine Asks.andThen (asks_onEngine (e.brings_countNoted r)) fun total => ?_
  exact Keeps.andThen (silent_outside (quiet_report _ _ _)) fun _ => Keeps.done _

/-- A run of what the builder holds, told by what the run of any query brings. -/
theorem received_built (a : Ask) {f : Spec → Run α} {s : Session} {w : World}
    (hf : ∀ spec, (perform (f spec) s w).2.received =
      w.received ++
        if opens s w then
          ((freshRequest? s.plan (a.narrowed spec)).map a.received).toList
        else []) :
    (perform (do let _ ← (do f (← build)); return) s w).2.received =
      w.received ++ if opens s w then (a.fresh? s.plan).toList else [] := by
  have hbuild : perform build s w = ((s.builder.build, s), w) := rfl
  have hplan : s.plan.builder = s.builder := rfl
  rw [received_followed fun _ => Keeps.done _, perform_bind, hbuild]
  unfold Ask.fresh?
  rw [hplan]
  cases s.builder.build with
  | ok spec => exact hf spec
  | error fault => simp

/-- A run: one request that is the fresh one if the query is built, the connection opens and
the query is prepared, and none otherwise. -/
theorem received_ask (a : Ask) (s : Session) (w : World) :
    (perform a.run s w).2.received =
      w.received ++ if opens s w then (a.fresh? s.plan).toList else [] := by
  cases a with
  | one => exact received_built .one fun spec => received_fetchOne spec s w
  | all => exact received_built .all fun spec => received_fetchAll spec s w
  | count => exact received_built .count fun spec => received_fetchCount spec s w

/-- After any history, a run brings to the engine the one request that a new request of the
index is prepared to, for the query, the type and the mode that calls and renewals have led to;
or none, if the query cannot be built, the connection not opened or the query not prepared. -/
theorem the_next_request_is_a_fresh_one (deeds : List Deed) (s : Session) (w : World) (a : Ask) :
    let (s', w') := after s w deeds
    (perform a.run s' w').2.received =
      w'.received ++
        if opens s' w' then (a.fresh? (deeds.foldl Deed.change s.plan)).toList else [] := by
  rcases hafter : after s w deeds with ⟨s', w'⟩
  have hplan := plan_after deeds s w
  rw [hafter] at hplan
  rw [← hplan]
  exact received_ask a s' w'

end Session

end SearchQuery
