-- Histories of a session. What a session asks for is decided by the calls on its builder and
-- by the record types that it was renewed with; nothing that it did with an engine, well or
-- not, has a part in it.
import SearchQuery.Proofs.BuilderRuns
import SearchQuery.Proofs.QuietSteps
import SearchQuery.Session

namespace SearchQuery

variable {α β γ : Type}

namespace Session

/-! ## Steps carried out -/

/-- Carries a step out. What came of it goes with the session and the outside behind it. -/
def perform (r : Run α) (s : Session) (w : World) : (Except Fault α × Session) × World :=
  (r.run.run s).run w

/-- Whatever the step starts from, it ends in something related to that. -/
def Follows (R : Session × World → Session × World → Prop) (r : Run α) : Prop :=
  ∀ s w, R (s, w) ((perform r s w).1.2, (perform r s w).2)

/-- A view of session and outside that the step leaves as it is. -/
def Keeps (view : Session → World → γ) (r : Run α) : Prop :=
  ∀ s w, view (perform r s w).1.2 (perform r s w).2 = view s w

theorem perform_look (s : Session) (w : World) :
    perform (get : Run Session) s w = ((.ok s, s), w) := rfl

theorem perform_checked (x : Except Fault α) (s : Session) (w : World) :
    perform (liftM x : Run α) s w = ((x, s), w) := rfl

theorem perform_engine (s : Session) (w : World) :
    perform engine s w =
      (((s.connection.ready.run w).1.1, { s with connection := (s.connection.ready.run w).1.2 }),
        (s.connection.ready.run w).2) := rfl

theorem perform_bind (r : Run α) (f : α → Run β) (s : Session) (w : World) :
    perform (r >>= f) s w =
      match perform r s w with
      | ((.ok a, s'), w') => perform (f a) s' w'
      | ((.error fault, s'), w') => ((.error fault, s'), w') := by
  have hcont : perform (r >>= f) s w =
      ((ExceptT.bindCont f (perform r s w).1.1).run (perform r s w).1.2).run (perform r s w).2 :=
    rfl
  rw [hcont]
  rcases perform r s w with ⟨⟨outcome, s'⟩, w'⟩
  cases outcome <;> rfl

theorem perform_bind_ok {r : Run α} {f : α → Run β} {s s' : Session} {w w' : World} {a : α}
    (h : perform r s w = ((.ok a, s'), w')) : perform (r >>= f) s w = perform (f a) s' w' := by
  rw [perform_bind, h]

theorem perform_bind_error {r : Run α} {f : α → Run β} {s s' : Session} {w w' : World}
    {fault : Fault} (h : perform r s w = ((.error fault, s'), w')) :
    perform (r >>= f) s w = ((.error fault, s'), w') := by
  rw [perform_bind, h]

theorem perform_onEngine (step : Step α) (s : Session) (w : World) :
    perform (onEngine step) s w = (((step.run.run w).1, s), (step.run.run w).2) := rfl

theorem perform_call (c : Builder.Call) (s : Session) (w : World) :
    perform (call c) s w =
      match s.builder.apply c with
      | .ok builder => ((.ok (), { s with builder }), w)
      | .error fault => ((.error fault, s), w) := by
  unfold call
  rw [perform_bind_ok (perform_look s w), perform_bind, perform_checked]
  cases s.builder.apply c <;> rfl

/-- Rows that are wanted as they are get no other shape. -/
theorem perform_shape {spec : Spec} (h : spec.asArray = true) (rows : List Fields) (s : Session)
    (w : World) : perform (shape spec rows) s w = ((.ok (rows.map .row), s), w) := by
  unfold shape
  rw [perform_bind_ok (perform_look _ _)]
  cases s.type with
  | none => rfl
  | some type =>
    simp only [h, if_true]
    rfl

theorem perform_tryCatch (r : Run α) (f : Fault → Run α) (s : Session) (w : World) :
    perform (tryCatch r f) s w =
      match perform r s w with
      | ((.ok a, s'), w') => ((.ok a, s'), w')
      | ((.error fault, s'), w') => perform (f fault) s' w' := by
  unfold perform
  simp only [tryCatch, tryCatchThe, MonadExceptOf.tryCatch, ExceptT.tryCatch, ExceptT.run_mk,
    StateT.run_bind]
  rcases hr : (r.run.run s).run w with ⟨⟨outcome, s'⟩, w'⟩
  have hraw : (StateT.run r s).run w = ((outcome, s'), w') := hr
  rw [hraw]
  cases outcome <;> rfl

/-! Steps put together follow a relation that is reflexive and transitive if their parts do. -/

section

variable {R : Session × World → Session × World → Prop}

theorem Follows.andThen (htrans : ∀ a b c, R a b → R b c → R a c) {r : Run α} {f : α → Run β}
    (hr : Follows R r) (hf : ∀ a, Follows R (f a)) : Follows R (r >>= f) := fun s w => by
  have hfirst := hr s w
  rw [perform_bind]
  rcases hp : perform r s w with ⟨⟨outcome, s'⟩, w'⟩
  rw [hp] at hfirst
  cases outcome with
  | ok a => exact htrans _ _ _ hfirst (hf a s' w')
  | error fault => exact hfirst

theorem Follows.caught (htrans : ∀ a b c, R a b → R b c → R a c) {r : Run α} {f : Fault → Run α}
    (hr : Follows R r) (hf : ∀ fault, Follows R (f fault)) : Follows R (tryCatch r f) :=
  fun s w => by
  have hfirst := hr s w
  rw [perform_tryCatch]
  rcases hp : perform r s w with ⟨⟨outcome, s'⟩, w'⟩
  rw [hp] at hfirst
  cases outcome with
  | ok a => exact hfirst
  | error fault => exact htrans _ _ _ hfirst (hf fault s' w')

end

namespace Keeps

variable {view : Session → World → γ}

theorem done (a : α) : Keeps view (pure a) := fun _ _ => rfl

theorem look : Keeps view (get : Run Session) := fun _ _ => rfl

theorem checked (x : Except Fault α) : Keeps view (liftM x : Run α) := fun _ _ => rfl

theorem outside {p : Act α} (h : ∀ s w, view s (p.run w).2 = view s w) :
    Keeps view (liftM p : Run α) := fun s w => h s w

theorem andThen {r : Run α} {f : α → Run β} (hr : Keeps view r) (hf : ∀ a, Keeps view (f a)) :
    Keeps view (r >>= f) :=
  Follows.andThen (R := fun a b => view b.1 b.2 = view a.1 a.2)
    (fun _ _ _ hab hbc => hbc.trans hab) hr hf

end Keeps

/-! ## What a session asks for -/

/-- What a session asks for: everything about it but what came of earlier steps. -/
structure Plan where
  mode : FieldMode
  type : Option RecordType
  builder : Builder

/-- What the session asks for now. -/
def plan (s : Session) : Plan := { mode := s.mode, type := s.type, builder := s.builder }

/-! ## The course of a session -/

/-- A relation that all steps of a session follow but the calls on its builder and renewals:
it takes no notice of what came of earlier steps, and taking the engine, asking any engine,
telling what happened and closing the connection follow it. -/
structure Course (R : Session × World → Session × World → Prop) : Prop where
  refl : ∀ a, R a a
  trans : ∀ a b c, R a b → R b c → R a c
  noted : ∀ (s : Session) query kept w, R (s, w) ({ s with query, kept }, w)
  engine : Follows R engine
  searched : ∀ (e : Engine) r, Follows R (onEngine (e.searchNoted r))
  counted : ∀ (e : Engine) r, Follows R (onEngine (e.countNoted r))
  examined : ∀ e : Engine, Follows R (onEngine e.health)
  told : ∀ level source message, Follows R (liftM (World.report level source message) : Run Unit)
  announced : ∀ type records, Follows R (liftM (announce type records) : Run Unit)
  close : Follows R close

/-- A course that takes no notice of what happens outside. -/
theorem Course.blind {R : Session × World → Session × World → Prop} (refl : ∀ a, R a a)
    (trans : ∀ a b c, R a b → R b c → R a c)
    (noted : ∀ (s : Session) query kept w, R (s, w) ({ s with query, kept }, w))
    (outside : ∀ s w w', R (s, w) (s, w'))
    (engine : Follows R Session.engine) (close : Follows R Session.close) : Course R where
  refl
  trans
  noted
  engine
  searched _ _ _ _ := outside _ _ _
  counted _ _ _ _ := outside _ _ _
  examined _ _ _ := outside _ _ _
  told _ _ _ _ _ := outside _ _ _
  announced _ _ _ _ := outside _ _ _
  close

namespace Course

variable {R : Session × World → Session × World → Prop} (h : Course R)
include h

theorem done (a : α) : Follows R (pure a) := fun _ _ => h.refl _

theorem fail (fault : Fault) : Follows R (throw fault : Run α) := fun _ _ => h.refl _

theorem look : Follows R (get : Run Session) := fun _ _ => h.refl _

theorem checked (x : Except Fault α) : Follows R (liftM x : Run α) := fun _ _ => h.refl _

theorem andThen {r : Run α} {f : α → Run β} (hr : Follows R r) (hf : ∀ a, Follows R (f a)) :
    Follows R (r >>= f) := Follows.andThen h.trans hr hf

theorem prepareOn (spec : Spec) (r : Request) : Follows R (prepareOn spec r) := by
  refine h.andThen h.look fun s => ?_
  refine h.andThen (h.checked _) fun prepared => ?_
  exact h.andThen (fun s w => h.noted s _ _ w) fun _ => h.done _

theorem rows (spec : Spec) : Follows R (rows spec) := by
  refine h.andThen h.engine fun e => ?_
  refine h.andThen h.look fun s => ?_
  refine h.andThen (h.prepareOn spec _) fun prepared => ?_
  refine h.andThen (h.searched _ _) fun hits => ?_
  exact h.andThen (h.told _ _ _) fun _ => h.done _

theorem shape (spec : Spec) (rows : List Fields) : Follows R (shape spec rows) := by
  unfold Session.shape
  refine h.andThen h.look fun s => ?_
  split
  · exact h.done _
  · split
    · exact h.done _
    · refine h.andThen (h.checked _) fun records => ?_
      exact h.andThen (h.announced _ _) fun _ => h.done _

theorem fetchOne (spec : Spec) : Follows R (fetchOne spec) := by
  unfold Session.fetchOne
  refine h.andThen (h.rows _) fun found => ?_
  split
  · exact h.done _
  · exact h.andThen (h.shape _ _) fun _ => h.done _

theorem fetchAll (spec : Spec) : Follows R (fetchAll spec) := by
  unfold Session.fetchAll
  refine h.andThen (h.rows _) fun rows => ?_
  refine h.andThen (h.shape _ _) fun found => ?_
  split
  · exact h.done _
  · split
    · exact h.done _
    · exact h.andThen (h.checked _) fun _ => h.done _

theorem fetchCount (spec : Spec) : Follows R (fetchCount spec) := by
  refine h.andThen h.engine fun e => ?_
  refine h.andThen h.look fun s => ?_
  refine h.andThen (h.prepareOn spec _) fun prepared => ?_
  refine h.andThen (h.counted _ _) fun total => ?_
  exact h.andThen (h.told _ _ _) fun _ => h.done _

theorem build : Follows R build := h.andThen h.look fun _ => h.checked _

theorem keepRequest : Follows R keepRequest := by
  unfold Session.keepRequest
  refine h.andThen h.look fun s => ?_
  split
  · exact h.andThen h.engine fun _ s w => h.noted s _ _ w
  · exact h.done _

theorem prepare : Follows R prepare := by
  refine h.andThen h.keepRequest fun _ => ?_
  refine h.andThen h.build fun spec s w => ?_
  -- The request that was kept is put in its place before the query is known to be prepared.
  refine h.trans _ _ _ (h.noted s s.query (some (spec.prepare s.mode (s.kept.getD {})).2) w) ?_
  refine h.andThen (h.checked _) (fun prepared => ?_) _ w
  exact h.andThen (fun s w => h.noted s _ _ w) fun _ => h.done _

theorem visit : Follows R visit := by
  unfold Session.visit
  refine h.andThen (Follows.caught h.trans ?_ fun fault => ?_) fun e => ?_
  · refine h.andThen h.engine fun e => ?_
    exact h.andThen h.close fun _ => h.done _
  · refine h.andThen h.close fun _ => ?_
    exact h.andThen (h.fail _) fun _ => h.done _
  · cases e with
    | ok a => exact h.done _
    | error a => exact h.done _

theorem health : Follows R health := h.andThen h.engine fun _ => h.examined _

end Course

/-! ## Histories -/

/-- The runs of a query. -/
inductive Ask where
  | one | all | count
  deriving DecidableEq, Repr

/-- Runs the query of the builder; what it finds does not matter here. -/
def Ask.run : Ask → Run Unit
  | .one => do
    let _ ← Session.one
    return
  | .all => do
    let _ ← Session.all
    return
  | .count => do
    let _ ← Session.count
    return

/-- Something done over the same connection, from outside of the session. -/
def elsewhere (work : Connection → Act Connection) : Run Unit :=
  onConnection fun c => do return (.ok (), ← work c)

/-- Whatever a caller can do with a session. -/
inductive Deed where
  | call (c : Builder.Call)
  | ask (a : Ask)
  /-- Prepares the query on the request that is kept. -/
  | prepare
  /-- Starts a new query on the same connection. -/
  | renew (type : Option RecordType)
  /-- Opens the connection if it is closed. -/
  | reach
  | health
  | close
  | visit
  /-- Anything over the same connection, such as the runs of another query. -/
  | elsewhere (work : Connection → Act Connection)
  /-- Asks for what search engines do not have. -/
  | existence
  | relations

/-- Carries a deed out. -/
def Deed.run : Deed → Run Unit
  | .call c => Session.call c
  | .ask a => a.run
  | .prepare => do
    let _ ← Session.prepare
    return
  | .renew type => Session.renew type
  | .reach => do
    let _ ← engine
    return
  | .health => do
    let _ ← Session.health
    return
  | .close => Session.close
  | .visit => do
    let _ ← Session.visit
    return
  | .elsewhere work => Session.elsewhere work
  | .existence => exists?
  | .relations => related

/-- Session and outside after some deeds. A deed that fails does not stop the next ones. -/
def after (s : Session) (w : World) (deeds : List Deed) : Session × World :=
  deeds.foldl (fun (s, w) d => ((perform d.run s w).1.2, (perform d.run s w).2)) (s, w)

/-- What a deed makes of what the session asks for. -/
def Deed.change (p : Plan) : Deed → Plan
  | .call c => { p with builder := p.builder.step c }
  | .renew type => { p with type, builder := {} }
  | _ => p

/-- A run of what the builder holds follows the course. -/
theorem Course.ask {R : Session × World → Session × World → Prop} (h : Course R) (a : Ask) :
    Follows R a.run := by
  have hbuilt : ∀ {α : Type} {f : Spec → Run α}, (∀ spec, Follows R (f spec)) →
      Follows R (do let _ ← (do f (← Session.build)); return) := fun hf =>
    h.andThen (h.andThen h.build hf) fun _ => h.done _
  cases a with
  | one => exact hbuilt h.fetchOne
  | all => exact hbuilt h.fetchAll
  | count => exact hbuilt h.fetchCount

/-- Every deed follows a course that takes no notice of what a session asks for, if what others
do over its connection follows it. -/
theorem Course.deed {R : Session × World → Session × World → Prop} (h : Course R)
    (asking : ∀ (s : Session) type builder w, R (s, w) ({ s with type, builder }, w)) {d : Deed}
    (helsewhere : ∀ work, d = .elsewhere work → Follows R (Session.elsewhere work)) :
    Follows R d.run := by
  cases d with
  | call c =>
    refine h.andThen h.look fun s => ?_
    refine h.andThen (h.checked _) fun builder => ?_
    exact fun s w => asking s s.type builder w
  | ask a => exact h.ask a
  | prepare => exact h.andThen h.prepare fun _ => h.done _
  | renew type =>
    exact fun s w => h.trans _ _ _ (asking s type {} w) (h.noted _ none none w)
  | reach => exact h.andThen h.engine fun _ => h.done _
  | health => exact h.andThen h.health fun _ => h.done _
  | close => exact h.close
  | visit => exact h.andThen h.visit fun _ => h.done _
  | elsewhere work => exact helsewhere work rfl
  | existence => exact h.fail _
  | relations => exact h.fail _

/-- Every history follows such a course. -/
theorem Course.after {R : Session × World → Session × World → Prop} (h : Course R)
    {deeds : List Deed} (hdeeds : ∀ d ∈ deeds, Follows R d.run) (s : Session) (w : World) :
    R (s, w) (after s w deeds) := by
  induction deeds generalizing s w with
  | nil => exact h.refl _
  | cons d deeds ih =>
    refine h.trans _ _ _ (hdeeds d List.mem_cons_self s w) ?_
    exact ih (fun d hd => hdeeds d (List.mem_cons_of_mem _ hd)) _ _

/-- What a session asks for stays the same on its course. -/
theorem course_plan : Course fun a b => b.1.plan = a.1.plan :=
  Course.blind (fun _ => rfl) (fun _ _ _ hab hbc => hbc.trans hab) (fun _ _ _ _ => rfl)
    (fun _ _ _ => rfl) (fun _ _ => rfl) (fun _ _ => rfl)

theorem plan_call (c : Builder.Call) (s : Session) (w : World) :
    (perform (call c) s w).1.2.plan = { s.plan with builder := s.builder.step c } := by
  unfold Builder.step
  rw [perform_call]
  cases s.builder.apply c <;> rfl

/-- One deed: only calls on the builder and renewals change what a session asks for. -/
theorem plan_deed (d : Deed) (s : Session) (w : World) :
    (perform d.run s w).1.2.plan = d.change s.plan := by
  have h := course_plan
  cases d with
  | call c => exact plan_call c s w
  | ask a => exact h.ask a s w
  | prepare => exact h.andThen h.prepare (fun _ => h.done _) s w
  | renew type => rfl
  | reach => exact h.andThen h.engine (fun _ => h.done _) s w
  | health => exact h.andThen h.health (fun _ => h.done _) s w
  | close => exact h.close s w
  | visit => exact h.andThen h.visit (fun _ => h.done _) s w
  | elsewhere work => rfl
  | existence => rfl
  | relations => rfl

/-- A history: what a session asks for after it is what its calls and renewals make of what
the session asked for before. -/
theorem plan_after (deeds : List Deed) (s : Session) (w : World) :
    (after s w deeds).1.plan = deeds.foldl Deed.change s.plan := by
  induction deeds generalizing s w with
  | nil => rfl
  | cons d deeds ih =>
    rw [List.foldl_cons, ← plan_deed d s w]
    exact ih _ _

end Session

end SearchQuery
