-- Which steps bring a request to an engine. Opening, closing and asking for health never do;
-- a search or a count brings exactly the one that it was started with.
import SearchQuery.Proofs.Exchanges
import SearchQuery.Proofs.StepPaths

namespace SearchQuery

variable {α β : Type}

/-- The step brings no request to an engine. -/
abbrev Quiet (p : Act α) : Prop := Along (fun w w' => w'.received = w.received) p

/-- The step brings one request to an engine. -/
def Brings (x : Received) (p : Act α) : Prop := ∀ w, (p.run w).2.received = w.received ++ [x]

/-! ## Quiet steps -/

theorem quiet_call (c : Call) : Quiet (World.call c) := fun _ => rfl

theorem quiet_report (level : Level) (source message : String) :
    Quiet (World.report level source message) := fun _ => rfl

theorem quiet_ask (c : Call) : Quiet (World.ask c) := fun w => by
  obtain ⟨replies, received, calls, events, package⟩ := w
  cases replies with
  | nil => rfl
  | cons reply rest => rfl

theorem quiet_construct (kind : ClientKind) (c : Call) : Quiet (World.construct kind c) :=
  fun w => by
    rw [World.run_construct]
    rfl

/-- No call brings a request by itself, whatever it is for. -/
theorem path_quiet : Path (fun w w' => w'.received = w.received) fun _ => True where
  refl _ := rfl
  trans hfirst hsecond := hsecond.trans hfirst
  told := quiet_report
  called c _ _ := quiet_call c
  asked c _ _ := quiet_ask c
  made _ kind c _ := quiet_construct kind c

/-- Opening a connection brings no request to its engine. -/
theorem Connection.quiet_ready (c : Connection) : Quiet c.ready :=
  path_quiet.ready trivial trivial trivial c

/-! ## Steps that bring a request -/

namespace Brings

variable {x : Received}

theorem first {p : Step α} {f : α → Step β} (hp : Brings x p.run) (hf : ∀ a, Quiet (f a).run) :
    Brings x (p >>= f).run := fun w => by
  have hrest : Quiet (ExceptT.bindCont f (p.run.run w).1) := by
    cases (p.run.run w).1 with
    | ok a => exact hf a
    | error fault => exact path_quiet.done _
  exact (hrest _).trans (hp w)

theorem after {p : Act α} {f : α → Step β} (hp : Quiet p) (hf : ∀ a, Brings x (f a).run) :
    Brings x ((liftM p : Step α) >>= f).run := fun w => by
  have hthen := hf (p.run w).1 (p.run w).2
  exact hthen.trans (congrArg (· ++ [x]) (hp w))

end Brings

theorem brings_receive (x : Received) : Brings x (liftM (World.receive x) : Step Unit).run :=
  fun _ => rfl

namespace Engine

theorem brings_execute (e : Engine) (r : Request) : Brings (.search r) (e.execute r).run :=
  Brings.first (brings_receive _) fun _ => path_quiet.executeReached trivial e r

theorem brings_count (e : Engine) (r : Request) : Brings (.count r) (e.count r).run :=
  Brings.first (brings_receive _) fun _ => path_quiet.countReached trivial e r

/-- A search brings its request to the engine once, whatever the engine makes of it. -/
theorem brings_searchNoted (e : Engine) (r : Request) :
    Brings (.search r) (e.searchNoted r).run := by
  refine Brings.after (quiet_report _ _ _) fun _ => ?_
  refine Brings.first (e.brings_execute r) fun raw => ?_
  exact path_quiet.collect fun _ => path_quiet.checked _

theorem brings_countNoted (e : Engine) (r : Request) : Brings (.count r) (e.countNoted r).run :=
  Brings.after (quiet_report _ _ _) fun _ => e.brings_count r

end Engine

end SearchQuery
