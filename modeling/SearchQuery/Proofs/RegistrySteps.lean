-- One step of a registry. A start writes an engine down once it is open; a stop makes the last
-- calls of an engine and tells how that went.
import SearchQuery.Registry
import SearchQuery.Proofs.Exchanges

namespace SearchQuery

theorem Shelf.run_perform (s : Shelf) (step : String) (c : Call) (w : World) :
    (s.perform step c).run.run w =
      (if s.failing.contains step then .error (.clientRuntime (step ++ " failed")) else .ok (),
        { w with calls := w.calls ++ [c] }) := by
  unfold perform
  rw [run_bind]
  show StateT.run (ExceptT.run (if s.failing.contains step = true then _ else _)) _ = _
  split <;> rfl

namespace Registry

/-- A start opens an engine, and only then writes it down and tells of it. -/
theorem run_start (r : Registry) (name : String) (args : List (Value × Value)) (w : World) :
    (r.start name args).run w =
      match (r.opened name args).run.run w with
      | (.error fault, w) => ((.error fault, r), w)
      | (.ok e, w) =>
        ((.ok e, { r with active := Entries.put name e r.active }),
          ((World.report .info source ("Initialized adapter: " ++ name)).run w).2) := by
  unfold start
  rw [StateT.run_bind]
  rcases (r.opened name args).run.run w with ⟨outcome, w'⟩
  cases outcome <;> rfl

/-- The calls that an engine makes when it is stopped. -/
def farewell : Engine → List Call
  | .solr s => if s.live then [.close] else []
  | .openSearch o => if o.live then [.close] else []
  | .shelf _ => [.shelfStopped]

/-- What stopping an engine comes to. -/
def stopped : Engine → Except Fault Unit × Engine
  | .solr s => (.ok (), .solr { s with live := false })
  | .openSearch o => (.ok (), .openSearch { o with live := false })
  | .shelf s =>
    (if s.failing.contains "shutdown" then .error (.clientRuntime "shutdown failed") else .ok (),
      .shelf s)

theorem run_stop (e : Engine) (w : World) :
    e.stop.run w = (stopped e, { w with calls := w.calls ++ farewell e }) := by
  cases e with
  | solr s =>
    obtain ⟨address, collection, username, password, timeout, defaultField, live⟩ := s
    unfold Engine.stop Solr.stop stopped farewell
    cases live with
    | true => rfl
    | false =>
      dsimp only
      rw [if_neg Bool.false_ne_true, if_neg Bool.false_ne_true, List.append_nil]
      rfl
  | openSearch o =>
    obtain ⟨hosts, indexPattern, username, password, certs, timeout, defaultField, extra, live⟩ := o
    unfold Engine.stop OpenSearch.stop stopped farewell
    cases live with
    | true => rfl
    | false =>
      dsimp only
      rw [if_neg Bool.false_ne_true, if_neg Bool.false_ne_true, List.append_nil]
      rfl
  | shelf s =>
    have hstop : (Engine.shelf s).stop.run w =
        ((((s.perform "shutdown" .shelfStopped).run.run w).1, .shelf s),
          ((s.perform "shutdown" .shelfStopped).run.run w).2) := rfl
    rw [hstop, Shelf.run_perform]
    rfl

/-- What is told of an engine that was stopped. -/
def lastEvent (name : String) (outcome : Except Fault Unit) : Event :=
  match outcome with
  | .ok _ => ⟨.info, source, "Shut down adapter: " ++ name⟩
  | .error _ => ⟨.warning, source, "Error shutting down adapter: " ++ name⟩

/-- Stopping an engine makes its last calls and reports how that went. -/
theorem run_stopOne (name : String) (e : Engine) (w : World) :
    (stopOne name e).run w = ((), { w with
      calls := w.calls ++ farewell e, events := w.events ++ [lastEvent name (stopped e).1] }) := by
  unfold stopOne lastEvent
  rw [StateT.run_bind, run_stop]
  dsimp only [bind]
  cases (stopped e).1 <;> rfl

end Registry

end SearchQuery
