-- Rounds over the open engines: all of them are closed, or all are asked how they are. Each has its
-- turn once, in the order in which they were opened, whether those before it failed or not.
import SearchQuery.Proofs.HealthChecks

namespace SearchQuery

/-! ## Engines of any manners -/

/-- What engines do when they are closed and when they are asked how they are. They may do anything
then, and fail. -/
structure Manners where
  stop : Engine → Act (Except Fault Unit × Engine)
  health : Engine → Step Health

namespace Manners

/-- The manners of the engines that the library brings. -/
def own : Manners := { stop := Engine.stop, health := Engine.health }

variable (m : Manners)

/-- Closes one engine and reports how that went. -/
def stopOne (name : String) (e : Engine) : Act Unit := do
  match (← m.stop e).1 with
  | .ok _ => World.report .info Registry.source ("Shut down adapter: " ++ name)
  | .error _ => World.report .warning Registry.source ("Error shutting down adapter: " ++ name)

/-- Closes every open engine of a registry. -/
def stopAll (r : Registry) : Act Registry := do
  r.active.forM fun (name, e) => m.stopOne name e
  return { r with active := [] }

/-- How one engine is. -/
def healthOf (e : Engine) : Act Health := do
  match ← (m.health e).run with
  | .ok report => return report
  | .error fault => return .unhealthy fault.message

/-- How every open engine of a registry is. -/
def healthAll (r : Registry) : Act (List (String × Health)) :=
  r.active.mapM fun (name, e) => do return (name, ← m.healthOf e)

theorem own_stopAll (r : Registry) : own.stopAll r = r.stopAll := rfl

theorem own_healthAll (r : Registry) : own.healthAll r = r.healthAll := rfl

/-! ## Turns -/

/-- The engines are closed one after the other, each once. What comes of it is reported, and
decides nothing else. -/
inductive Closes : List (String × Engine) → World → World → Prop
  | done {w : World} : Closes [] w w
  | turn {name : String} {e e' : Engine} {outcome : Except Fault Unit}
      {rest : List (String × Engine)} {w w₁ w₂ : World}
      (stops : (m.stop e).run w = ((outcome, e'), w₁))
      (others : Closes rest { w₁ with
        events := w₁.events ++ [Registry.lastEvent name outcome] } w₂) :
      Closes ((name, e) :: rest) w w₂

/-- The entry for an engine: its own answer, or that it is unhealthy, with the text of the fault. -/
def entryOf : Except Fault Health → Health
  | .ok report => report
  | .error fault => .unhealthy fault.message

/-- The engines are asked one after the other, each once. -/
inductive Answers : List (String × Engine) → World → List (String × Health) → World → Prop
  | done {w : World} : Answers [] w [] w
  | turn {name : String} {e : Engine} {answer : Except Fault Health}
      {rest : List (String × Engine)} {reports : List (String × Health)} {w w₁ w₂ : World}
      (asks : (m.health e).run.run w = (answer, w₁)) (others : Answers rest w₁ reports w₂) :
      Answers ((name, e) :: rest) w ((name, entryOf answer) :: reports) w₂

theorem run_stopOne (name : String) (e : Engine) (w : World) :
    (m.stopOne name e).run w =
      let stopped := (m.stop e).run w
      ((), { stopped.2 with
        events := stopped.2.events ++ [Registry.lastEvent name stopped.1.1] }) := by
  unfold stopOne Registry.lastEvent
  rw [StateT.run_bind]
  rcases (m.stop e).run w with ⟨⟨outcome, e'⟩, w'⟩
  cases outcome <;> rfl

theorem closes_forM (entries : List (String × Engine)) (w : World) :
    ∃ w', (entries.forM fun (name, e) => m.stopOne name e).run w = ((), w') ∧
      m.Closes entries w w' := by
  induction entries generalizing w with
  | nil => exact ⟨w, rfl, .done⟩
  | cons entry rest ih =>
    obtain ⟨name, e⟩ := entry
    rcases hstops : (m.stop e).run w with ⟨⟨outcome, e'⟩, w₁⟩
    have hone := m.run_stopOne name e w
    rw [hstops] at hone
    obtain ⟨w₂, hrest, hothers⟩ := ih _
    refine ⟨w₂, ?_, .turn hstops hothers⟩
    show ((m.stopOne name e) >>= fun _ => rest.forM _).run w = _
    rw [StateT.run_bind, hone]
    exact hrest

theorem run_stopAll (r : Registry) (w : World) :
    ∃ w', (m.stopAll r).run w = ({ r with active := [] }, w') ∧ m.Closes r.active w w' := by
  obtain ⟨w', hall, hcloses⟩ := m.closes_forM r.active w
  refine ⟨w', ?_, hcloses⟩
  unfold stopAll
  rw [StateT.run_bind, hall]
  rfl

theorem run_healthOf (e : Engine) (w : World) :
    (m.healthOf e).run w =
      (entryOf ((m.health e).run.run w).1, ((m.health e).run.run w).2) := by
  unfold healthOf entryOf
  rw [StateT.run_bind]
  rcases (m.health e).run.run w with ⟨answer, w'⟩
  cases answer <;> rfl

theorem run_healthAll (r : Registry) (w : World) :
    ∃ reports w', (m.healthAll r).run w = (reports, w') ∧ m.Answers r.active w reports w' := by
  unfold healthAll
  induction r.active generalizing w with
  | nil => exact ⟨[], w, rfl, .done⟩
  | cons entry rest ih =>
    obtain ⟨name, e⟩ := entry
    rcases hasks : (m.health e).run.run w with ⟨answer, w₁⟩
    have hone := m.run_healthOf e w
    rw [hasks] at hone
    have hturn : (do return (name, ← m.healthOf e) : Act (String × Health)).run w =
        ((name, entryOf answer), w₁) := by
      rw [StateT.run_bind, hone]
      rfl
    obtain ⟨reports, w₂, hrest, hothers⟩ := ih w₁
    refine ⟨_, w₂, ?_, .turn hasks hothers⟩
    rw [List.mapM_cons, StateT.run_bind]
    dsimp only
    rw [hturn]
    show StateT.run (rest.mapM _ >>= fun reports => pure (_ :: reports)) w₁ = _
    rw [StateT.run_bind, hrest]
    rfl

variable {m}

theorem Answers.keys_eq {entries : List (String × Engine)} {reports : List (String × Health)}
    {w w' : World} (h : m.Answers entries w reports w') :
    Entries.keys reports = Entries.keys entries := by
  induction h with
  | done => rfl
  | turn _ _ ih => rw [Entries.keys_cons, Entries.keys_cons, ih]

/-! ## The engines of the library -/

/-- What is told when these engines are closed. -/
def lastEvents (entries : List (String × Engine)) : List Event :=
  entries.map fun (name, e) => Registry.lastEvent name (Registry.stopped e).1

theorem Closes.own_eq {entries : List (String × Engine)} {w w' : World}
    (h : own.Closes entries w w') :
    w' = { w with
      calls := w.calls ++ entries.flatMap (Registry.farewell ·.2)
      events := w.events ++ lastEvents entries } := by
  induction h with
  | done => simp [lastEvents]
  | @turn name e e' outcome rest w w₁ w₂ stops _ ih =>
    have hstop : (own.stop e).run w = _ := Registry.run_stop e w
    obtain ⟨hstopped, rfl⟩ := Prod.mk.inj (hstop.symm.trans stops)
    simp [ih, lastEvents, hstopped]

/-- Asking changes nothing but what was asked and answered. -/
theorem Answers.own_eq {entries : List (String × Engine)} {reports : List (String × Health)}
    {w w' : World} (h : own.Answers entries w reports w') :
    w' = { w with
      calls := w.calls ++ entries.flatMap (·.2.checkup)
      replies := w.replies.drop (entries.countP (·.2.hasClient)) } := by
  induction h with
  | done => simp
  | @turn name e answer rest reports w w₁ w₂ asks _ ih =>
    have hask : (own.health e).run.run w = _ := e.run_health w
    cases hask.symm.trans asks
    cases hopen : e.hasClient <;> simp [ih, Engine.checked, hopen]

end Manners

namespace Registry

open Manners

/-- Whatever the engines do when they are closed and asked how they are, in any registry, none of
them keeps another from its turn. Closing all never fails. It closes every open engine once, in
order, and leaves none open and the known kinds as they were; closing all again does nothing. Asking
all never fails, asks every open engine once, in order, and gives an entry for each: its own answer,
or that it is unhealthy, with the text of the fault. The engines of the library make their last
calls then, or the calls of a check, and nothing else is changed outside. -/
theorem no_engine_keeps_another_from_its_turn (r : Registry) (w : World) :
    (∀ m : Manners,
      (∃ w', (m.stopAll r).run w = ({ r with active := [] }, w') ∧ m.Closes r.active w w' ∧
        (m.stopAll { r with active := [] }).run w' = ({ r with active := [] }, w')) ∧
      ∃ reports w', (m.healthAll r).run w = (reports, w') ∧ m.Answers r.active w reports w' ∧
        Entries.keys reports = Entries.keys r.active) ∧
    r.stopAll = own.stopAll r ∧ r.healthAll = own.healthAll r ∧
    (r.stopAll.run w).2 = { w with
      calls := w.calls ++ r.active.flatMap (farewell ·.2)
      events := w.events ++ lastEvents r.active } ∧
    (r.healthAll.run w).2 = { w with
      calls := w.calls ++ r.active.flatMap (·.2.checkup)
      replies := w.replies.drop (r.active.countP (·.2.hasClient)) } := by
  refine ⟨fun m => ⟨?_, ?_⟩, (own_stopAll r).symm, (own_healthAll r).symm, ?_, ?_⟩
  · obtain ⟨w', hstop, hcloses⟩ := m.run_stopAll r w
    exact ⟨w', hstop, hcloses, rfl⟩
  · obtain ⟨reports, w', hhealth, hanswers⟩ := m.run_healthAll r w
    exact ⟨reports, w', hhealth, hanswers, hanswers.keys_eq⟩
  · obtain ⟨w', hstop, hcloses⟩ := own.run_stopAll r w
    rw [← own_stopAll, hstop]
    exact hcloses.own_eq
  · obtain ⟨reports, w', hhealth, hanswers⟩ := own.run_healthAll r w
    rw [← own_healthAll, hhealth]
    exact hanswers.own_eq

/-- A shelf that fails does not keep the one behind it from being closed. -/
example :
    let r : Registry :=
      { active := [("old", .shelf { failing := ["shutdown"] }), ("new", .shelf {})] }
    (r.stopAll.run {}).2.events =
      [⟨.warning, source, "Error shutting down adapter: old"⟩,
        ⟨.info, source, "Shut down adapter: new"⟩] := rfl

end Registry

end SearchQuery
