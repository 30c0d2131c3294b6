-- The connection of a session. Whatever a session does, well or not, its connection goes
-- through uses of it, so that one engine is kept from opening to closing over any history.
import SearchQuery.Proofs.ConnectionLife
import SearchQuery.Proofs.SessionRuns

namespace SearchQuery

theorem Connection.after_append (c : Connection) (w : World) (uses more : List Use) :
    after c w (uses ++ more) = after (after c w uses).1 (after c w uses).2 more :=
  List.foldl_append

namespace Session

/-- Some uses of the connection lead from what is before to what is behind. -/
def ByUses (a b : Session × World) : Prop :=
  ∃ uses, (b.1.connection, b.2) = a.1.connection.after a.2 uses

/-- All steps of a session follow uses of its connection. -/
theorem course_byUses : Course ByUses := by
  refine Course.blind (fun _ => ⟨[], rfl⟩) ?_ (fun _ _ _ _ => ⟨[], rfl⟩) ?_ ?_ ?_
  · rintro a b c ⟨uses, hab⟩ ⟨more, hbc⟩
    exact ⟨uses ++ more, by rw [Connection.after_append, ← hab, hbc]⟩
  · exact fun _ _ w' => ⟨[.aside fun _ => (.ok (), w')], rfl⟩
  · intro s w
    refine ⟨[.work fun _ => pure ()], ?_⟩
    rw [Connection.after_cons, Connection.run_work, perform_engine]
    rcases s.connection.ready.run w with ⟨⟨outcome, c⟩, w'⟩
    cases outcome <;> rfl
  · exact fun _ _ => ⟨[.close], rfl⟩

/-- What others do over the connection of the session is a use of it. -/
def Deed.Polite : Deed → Prop
  | .elsewhere work => ∃ u : Connection.Use, work = fun c => do return (← u.run c).2
  | _ => True

theorem byUses_deed {d : Deed} (hpolite : d.Polite) : Follows ByUses d.run :=
  course_byUses.deed (fun _ _ _ _ => ⟨[], rfl⟩) fun work hwork => by
    rw [hwork] at hpolite
    obtain ⟨u, rfl⟩ := hpolite
    exact fun _ _ => ⟨[u], rfl⟩

theorem byUses_after {deeds : List Deed} (hpolite : ∀ d ∈ deeds, d.Polite) (s : Session)
    (w : World) : ByUses (s, w) (after s w deeds) :=
  course_byUses.after (fun d hd => byUses_deed (hpolite d hd)) s w

/-- A session on a connection that has a registry of its own: after any history, one engine
is kept from opening to closing. -/
theorem one_engine_over_any_history {deeds : List Deed} (hpolite : ∀ d ∈ deeds, d.Polite)
    {s : Session} {settings : SearchSettings} {kinds : List (String × EngineKind)}
    (hfresh : s.connection = { settings, registry := { kinds } }) (w : World) :
    Connection.Orderly settings kinds (after s w deeds).1.connection (after s w deeds).2 := by
  obtain ⟨uses, huses⟩ := byUses_after hpolite s w
  have hend : (after s w deeds).1.connection = (s.connection.after w uses).1 :=
    congrArg Prod.fst huses
  have hheld : Connection.Held settings kinds (after s w deeds).1.connection := by
    rw [hend, hfresh]
    exact Connection.held_after Connection.held_fresh uses w
  exact Connection.orderly_of_held hheld _

end Session

end SearchQuery
