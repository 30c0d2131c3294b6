-- The life of clients. A client that its engine welcomes is closed once by the time that the
-- connection is closed; one that is not welcome is never closed.
import SearchQuery.Proofs.ClientLedger
import SearchQuery.Proofs.Openings
import SearchQuery.Proofs.SessionRuns

namespace SearchQuery

/-! ## Opening and closing an engine -/

theorem OpenSearch.isIntroduction_eq (outcome : Outcome) :
    Ledger.isIntroduction outcome =
      match welcome outcome with
      | .ok _ => true
      | .error _ => false := by
  unfold Ledger.isIntroduction welcome
  cases outcome.body? with
  | error failure => rfl
  | ok answer =>
    dsimp only
    cases clusterOf answer <;> rfl

/-- The clients of an open engine: its own one. -/
def Engine.clients (e : Engine) : List Client :=
  if e.hasClient then [{ welcomed := some true }] else []

variable {clients : List Client}

/-- Making a client that is not welcome, or none at all. -/
def Loses (clients : List Client) (w w' : World) : Prop :=
  Leads clients w clients w' ∨ Leads clients w ({ welcomed := some false } :: clients) w'

/-- Starting an engine makes the client that the engine then has, or loses one. -/
def Starts (clients : List Client) (w : World) : (Except Fault Unit × Engine) × World → Prop
  | ((.ok _, e), w') => Leads clients w (e.clients ++ clients) w'
  | ((.error _, _), w') => Loses clients w w'

/-- A client is made unless that is refused. -/
theorem leads_constructed {kind : ClientKind} {c : Call}
    (hc : ∀ l : Ledger, l.note c = l.construct kind) (w : World) :
    Leads clients w (if (w.refusal? kind).isSome then clients else {} :: clients)
      (w.constructed kind c) := by
  refine Leads.step rfl ?_
  have hreply : w.replies.head?.filter (·.making == some kind) = w.construction? kind := rfl
  rw [hc]
  unfold World.refusal? World.constructed Ledger.construct
  dsimp only
  rw [hreply]
  rcases w.construction? kind with
    - | ⟨⟨failure⟩ | ⟨status, body, undecodable⟩, making⟩ <;> rfl

theorem Solr.leads_start (s : Solr) (w : World) :
    Starts clients w (((s.start.run w).1.1, .solr (s.start.run w).1.2), (s.start.run w).2) := by
  rw [run_start]
  cases hopening : s.opening with
  | error fault => exact .inl (Leads.still rfl rfl)
  | ok opening =>
    have hmade : Leads clients w (if (w.refusal? .http).isSome then clients else {} :: clients)
        (w.constructed .http opening) := by
      obtain ⟨limit, credentials, rfl⟩ := s.opening_eq_ok hopening
      exact leads_constructed (fun _ => rfl) w
    dsimp only
    cases hrefusal : w.refusal? .http with
    | some failure =>
      rw [hrefusal] at hmade
      exact .inl hmade
    | none =>
      rw [hrefusal] at hmade
      have hmade : Leads clients w ({} :: clients) (w.constructed .http opening) := hmade
      have hgreeted (good : Bool) (hgood :
          Ledger.isWelcome (w.constructed .http opening).outcome = good) :
          Leads ({} :: clients) (w.constructed .http opening)
            ({ welcomed := some good } :: clients)
            ((w.constructed .http opening).asked (.get s.pingPath)) :=
        Leads.step rfl (by rw [← hgood]; rfl)
      unfold Ledger.isWelcome at hgreeted
      have hpath : ({ s with live := true } : Solr).pingPath = s.pingPath := rfl
      dsimp only
      rw [run_greet, hpath]
      cases haccepted : (w.constructed .http opening).outcome.accepted? with
      | error failure =>
        rw [haccepted] at hgreeted
        exact .inr (hmade.trans (hgreeted false rfl))
      | ok answer =>
        rw [haccepted] at hgreeted
        exact (hmade.trans (hgreeted true rfl)).trans (Leads.still rfl rfl)

theorem OpenSearch.leads_start (o : OpenSearch) (w : World) :
    Starts clients w
      (((o.start.run w).1.1, .openSearch (o.start.run w).1.2), (o.start.run w).2) := by
  have hmade : Leads clients w
      (if (w.refusal? .openSearch).isSome then clients else {} :: clients)
      (w.constructed .openSearch o.opening) := leads_constructed (fun _ => rfl) w
  rw [run_start]
  cases w.hasOpenSearch with
  | false => exact .inl (Leads.still rfl rfl)
  | true =>
    rw [Bool.not_true, if_neg Bool.false_ne_true]
    cases hrefusal : w.refusal? .openSearch with
    | some failure =>
      rw [hrefusal] at hmade
      exact .inl hmade
    | none =>
      rw [hrefusal] at hmade
      have hmade : Leads clients w ({} :: clients) (w.constructed .openSearch o.opening) := hmade
      have hgreeted (good : Bool) (hgood :
          Ledger.isIntroduction (w.constructed .openSearch o.opening).outcome = good) :
          Leads ({} :: clients) (w.constructed .openSearch o.opening)
            ({ welcomed := some good } :: clients) ((w.constructed .openSearch o.opening).asked .info) :=
        Leads.step rfl (by rw [← hgood]; rfl)
      rw [isIntroduction_eq] at hgreeted
      dsimp only
      rw [run_greet]
      cases hwelcome : welcome (w.constructed .openSearch o.opening).outcome with
      | error fault =>
        rw [hwelcome] at hgreeted
        exact .inr (hmade.trans (hgreeted false rfl))
      | ok cluster =>
        rw [hwelcome] at hgreeted
        exact (hmade.trans (hgreeted true rfl)).trans (Leads.still rfl rfl)

theorem Engine.leads_start (e : Engine) (w : World) : Starts clients w (e.start.run w) := by
  cases e with
  | solr s => exact s.leads_start w
  | openSearch o => exact o.leads_start w
  | shelf s =>
    have hstart : (Engine.shelf s).start.run w =
        ((((s.perform "initialize" .shelfStarted).run.run w).1, .shelf s),
          ((s.perform "initialize" .shelfStarted).run.run w).2) := rfl
    have hstarted : Leads clients w clients { w with calls := w.calls ++ [.shelfStarted] } :=
      Leads.step rfl rfl
    rw [hstart, Shelf.run_perform]
    cases s.failing.contains "initialize" with
    | true => exact Or.inl hstarted
    | false => exact hstarted

/-- Stopping an engine closes its client. -/
theorem Registry.leads_stopOne (name : String) (e : Engine) (w : World) :
    Leads (e.clients ++ clients) w (Ledger.close e.clients ++ clients)
      ((stopOne name e).run w).2 := by
  rw [run_stopOne]
  unfold Engine.clients Engine.hasClient farewell
  cases e with
  | solr s =>
    rcases s with ⟨_, _, _, _, _, _, - | -⟩
    · exact Leads.still (List.append_nil _) rfl
    · exact Leads.step (c := .close) rfl rfl
  | openSearch o =>
    rcases o with ⟨_, _, _, _, _, _, _, _, - | -⟩
    · exact Leads.still (List.append_nil _) rfl
    · exact Leads.step (c := .close) rfl rfl
  | shelf s => exact Leads.step (c := .shelfStopped) rfl rfl

namespace Connection

variable {settings : SearchSettings} {kinds : List (String × EngineKind)}

variable (settings kinds) in
/-- Opening makes the client that the engine then has, or loses one. -/
theorem leads_opening (hmet : Met clients) (w : World) :
    match (opening settings kinds).run.run w with
    | (.ok e, w') => Leads clients w (e.clients ++ clients) w'
    | (.error _, w') => Loses clients w w' := by
  have hstill : Leads clients w clients w := Leads.still rfl rfl
  by_cases hdisabled : Disabled settings
  · rw [run_opening_disabled hdisabled]
    exact .inl hstill
  · rw [run_opening_enabled hdisabled, Registry.run_opened]
    cases Registry.takenArgument? (openingArguments settings) with
    | some taken => exact .inl hstill
    | none =>
      dsimp only
      cases kinds.lookup settings.defaultEngine with
      | none => exact .inl hstill
      | some kind =>
        have hmake := (path_leads hmet).make ⟨by decide, by decide⟩ kind
          (openingArguments settings) w
        dsimp only
        rcases hmade : (kind.make (openingArguments settings)).run.run w with ⟨outcome, w'⟩
        rw [hmade] at hmake
        cases outcome with
        | error fault => exact .inl hmake
        | ok made =>
          have hstart : Starts clients w' (made.start.run w') := made.leads_start w'
          dsimp only
          rcases hstarted : made.start.run w' with ⟨⟨outcome, e⟩, w''⟩
          rw [hstarted] at hstart
          cases outcome with
          | error fault =>
            rcases hstart with hsame | hlost
            · exact .inl (hmake.trans hsame)
            · exact .inr (hmake.trans hlost)
          | ok _ =>
            have hopened : Leads clients w' (e.clients ++ clients) w'' := hstart
            exact (hmake.trans hopened).trans (Leads.still rfl rfl)

/-! ## Errands -/

/-- What is done over a connection, and what its searches do with an engine that they took
from it. -/
inductive Errand where
  /-- Takes the engine, which opens it if none is open. -/
  | reach
  | search (e : Engine) (r : Request)
  | count (e : Engine) (r : Request)
  | examine (e : Engine)
  | tell (level : Level) (source message : String)
  | announce (type : RecordType) (records : List Record)
  | close

/-- The use of the connection that an errand is. -/
def Errand.use : Errand → Use
  | .reach => .work fun _ => pure ()
  | .search e r => .aside do
    let _ ← e.searchNoted r
    return
  | .count e r => .aside do
    let _ ← e.countNoted r
    return
  | .examine e => .aside do
    let _ ← e.health
    return
  | .tell level source message => .aside (World.report level source message)
  | .announce type records => .aside (Session.announce type records)
  | .close => .close

/-- Connection and outside after some errands. An errand that fails does not stop the next
ones. -/
def afterErrands (c : Connection) (w : World) (errands : List Errand) : Connection × World :=
  after c w (errands.map Errand.use)

/-! ## What holds of the clients -/

/-- The client was welcomed and closed once, or it was not welcomed and never closed. -/
def IsDone (c : Client) : Prop :=
  c = { welcomed := some true, closed := 1 } ∨ c = { welcomed := some false, closed := 0 }

/-- All clients are done with but that of the open engine, which was welcomed and is not
closed yet. -/
def Settled (engine : Option Engine) (clients : List Client) : Prop :=
  ∃ done, clients = engine.elim [] Engine.clients ++ done ∧ ∀ c ∈ done, IsDone c

theorem Settled.met {engine : Option Engine} (h : Settled engine clients) : Met clients := by
  obtain ⟨done, rfl, hdone⟩ := h
  intro c hc
  rcases List.mem_append.mp hc with hown | hother
  · cases engine with
    | none => cases hown
    | some e =>
      have hown : c ∈ (if e.hasClient then [{ welcomed := some true }] else []) := hown
      split at hown
      · rw [List.mem_singleton.mp hown]
        exact Option.some_ne_none true
      · cases hown
  · rcases hdone c hother with rfl | rfl
    · exact Option.some_ne_none true
    · exact Option.some_ne_none false

/-- Something that leaves the connection and its clients as they are. -/
theorem leads_aside {engine : Option Engine} (h : Settled engine clients) {act : Step Unit}
    (hact : Along (fun w w' => Leads clients w clients w') act.run) (w : World) :
    ∃ clients', Leads clients w clients' (((Use.aside act).run
      (holding settings kinds engine)).run w).2 ∧
      Settled (((Use.aside act).run (holding settings kinds engine)).run w).1.2.engine clients' :=
  ⟨clients, hact w, h⟩

variable (settings kinds) in
/-- One errand: it makes a client only where none is open, and closes the open one only. -/
theorem settled_by_errand {engine : Option Engine} (h : Settled engine clients) (x : Errand)
    (w : World) :
    ∃ clients', Leads clients w clients' ((x.use.run (holding settings kinds engine)).run w).2 ∧
      Settled ((x.use.run (holding settings kinds engine)).run w).1.2.engine clients' := by
  have hpath := path_leads h.met
  cases x with
  | reach =>
    cases engine with
    | some e =>
      have hrun : ((Use.work fun _ => pure ()).run (holding settings kinds (some e))).run w = _ :=
        run_work_open e _ w
      show ∃ clients', Leads clients w clients' (((Use.work _).run _).run w).2 ∧
        Settled (((Use.work _).run _).run w).1.2.engine clients'
      rw [hrun]
      exact ⟨clients, Leads.still rfl rfl, h⟩
    | none =>
      have hopening := leads_opening settings kinds h.met w
      obtain ⟨done, hclients, hdone⟩ := h
      have hclients : clients = done := hclients
      subst hclients
      have hrun : ((Use.work fun _ => pure ()).run (holding settings kinds none)).run w = _ :=
        run_work_closed _ w
      show ∃ clients', Leads clients w clients' (((Use.work _).run _).run w).2 ∧
        Settled (((Use.work _).run _).run w).1.2.engine clients'
      rw [hrun]
      rcases hopened : (opening settings kinds).run.run w with ⟨outcome, w'⟩
      rw [hopened] at hopening
      cases outcome with
      | ok e => exact ⟨_, hopening, clients, rfl, hdone⟩
      | error fault =>
        rcases hopening with hsame | hlost
        · exact ⟨_, hsame, clients, rfl, hdone⟩
        · refine ⟨_, hlost, { welcomed := some false } :: clients, rfl, fun c hc => ?_⟩
          rcases List.mem_cons.mp hc with rfl | hother
          · exact .inr rfl
          · exact hdone c hother
  | search e r =>
    refine leads_aside h (hpath.next ?_ fun _ => hpath.ok _) w
    exact hpath.searchNoted ⟨by decide, by decide⟩ (leads_receive clients) e r
  | count e r =>
    refine leads_aside h (hpath.next ?_ fun _ => hpath.ok _) w
    exact hpath.countNoted ⟨by decide, by decide⟩ (leads_receive clients) e r
  | examine e =>
    refine leads_aside h (hpath.next ?_ fun _ => hpath.ok _) w
    exact hpath.health ⟨by decide, by decide⟩ e
  | tell level source message =>
    exact leads_aside h (hpath.plain (hpath.told _ _ _)) w
  | announce type records =>
    exact leads_aside h (hpath.plain (hpath.announce ⟨by decide, by decide⟩ _ _)) w
  | close =>
    cases engine with
    | none => exact ⟨clients, Leads.still rfl rfl, h⟩
    | some e =>
      obtain ⟨done, rfl, hdone⟩ := h
      refine ⟨_, Registry.leads_stopOne settings.defaultEngine e w,
        Ledger.close e.clients ++ done, rfl, fun c hc => ?_⟩
      rcases List.mem_append.mp hc with hown | hother
      · unfold Engine.clients at hown
        split at hown
        · exact .inl (List.mem_singleton.mp hown)
        · cases hown
      · exact hdone c hother

/-! ## Runs of errands -/

theorem afterErrands_append (c : Connection) (w : World) (errands more : List Errand) :
    afterErrands c w (errands ++ more) =
      afterErrands (afterErrands c w errands).1 (afterErrands c w errands).2 more := by
  unfold afterErrands after
  rw [List.map_append, List.foldl_append]

theorem settled_after {c : Connection} (hheld : Held settings kinds c)
    (h : Settled c.engine clients) (errands : List Errand) (w : World) :
    ∃ clients', Leads clients w clients' (afterErrands c w errands).2 ∧
      Settled (afterErrands c w errands).1.engine clients' := by
  induction errands generalizing c clients w with
  | nil => exact ⟨clients, Leads.still rfl rfl, h⟩
  | cons x errands ih =>
    obtain ⟨clients', hfirst, hsettled⟩ := settled_by_errand settings kinds h x w
    rw [← hheld.holds] at hfirst hsettled
    obtain ⟨clients'', hrest, hend⟩ := ih (held_by_use hheld x.use w) hsettled _
    exact ⟨clients'', hfirst.trans hrest, hend⟩

/-- A connection that was closed last has no engine. -/
theorem closed_after_errands {c : Connection} (hheld : Held settings kinds c)
    (errands : List Errand) (w : World) :
    (afterErrands c w (errands ++ [.close])).1.engine = none := by
  have hbefore := held_after hheld (errands.map Errand.use) w
  rw [afterErrands_append]
  show ((Use.close.run (afterErrands c w errands).1).run _).1.2.engine = none
  unfold afterErrands
  rw [hbefore.holds]
  cases (after c w (errands.map Errand.use)).1.engine <;> rfl

/-- After errands that end by closing the connection all clients are done with. -/
theorem done_after_close {c : Connection} (hheld : Held settings kinds c)
    (hnone : c.engine = none) (errands : List Errand) (w : World) :
    let (c', w') := afterErrands c w (errands ++ [.close])
    c'.engine = none ∧ ∃ clients, Leads [] w clients w' ∧ ∀ client ∈ clients, IsDone client := by
  have hstart : Settled c.engine [] := ⟨[], by rw [hnone]; rfl, fun _ hc => nomatch hc⟩
  have hclosed := closed_after_errands hheld errands w
  obtain ⟨clients, hleads, done, hclients, hdone⟩ :=
    settled_after hheld hstart (errands ++ [.close]) w
  rw [hclosed] at hclients
  exact ⟨hclosed, clients, hleads, by rw [hclients]; exact hdone⟩

variable (settings kinds)

/-- Whatever was done over a connection that has a registry of its own, with any replies, by
the time that it is closed: every client that its engine welcomed was closed, and just once;
a client that was not welcomed was never closed; and there are no others. -/
theorem welcomed_clients_are_closed_once (errands : List Errand) (w : World) :
    let (c, w') := afterErrands { settings, registry := { kinds } } w (errands ++ [.close])
    c.engine = none ∧ ∃ calls, w'.calls = w.calls ++ calls ∧
      ∀ client ∈ Ledger.clientsOf w.replies calls, IsDone client := by
  have hheld : Held settings kinds { settings, registry := { kinds } } := held_fresh
  obtain ⟨hclosed, clients, hleads, hdone⟩ := done_after_close hheld rfl errands w
  obtain ⟨calls, hcalls, hclients⟩ := hleads.clientsOf
  exact ⟨hclosed, calls, hcalls, by rw [hclients]; exact hdone⟩

variable {settings kinds}

/-- Solr does not answer when the connection is opened. The client that was made for this is
still open when the connection is closed. -/
theorem a_client_that_is_not_welcomed_stays_open :
    let w : World := { replies := [{ outcome := .failed (.transport "boom") }] }
    let (c, w') := afterErrands { registry := { kinds := [("solr", .solr)] } } w [.reach, .close]
    c.engine = none ∧
      Ledger.clientsOf w.replies w'.calls = [{ welcomed := some false, closed := 0 }] :=
  ⟨rfl, rfl⟩

end Connection

/-! ## Sessions -/

namespace Session

open Connection

/-- Some errands lead from what is before to what is behind. -/
def ByErrands (a b : Session × World) : Prop :=
  ∃ errands, (b.1.connection, b.2) = a.1.connection.afterErrands a.2 errands

/-- A step that leaves the connection as it is and does outside what an errand does. -/
theorem byErrands_outside {α : Type} {r : Run α} {step : Step α} (x : Errand)
    (hx : x.use = .aside do
      let _ ← step
      return)
    (hr : ∀ s w, ((perform r s w).1.2, (perform r s w).2) = (s, (step.run.run w).2)) :
    Follows ByErrands r := fun s w => by
  refine ⟨[x], ?_⟩
  have hstep : ((do let _ ← step; return : Step Unit).run.run w).2 = (step.run.run w).2 := by
    rw [run_bind]
    rcases step.run.run w with ⟨outcome, w'⟩
    cases outcome <;> rfl
  rw [hr]
  show (s.connection, _) =
    (((x.use.run s.connection).run w).1.2, ((x.use.run s.connection).run w).2)
  rw [hx]
  exact congrArg (s.connection, ·) hstep.symm

/-- All steps of a session are errands over its connection. -/
theorem course_byErrands : Course ByErrands where
  refl _ := ⟨[], rfl⟩
  trans := by
    rintro a b c ⟨errands, hab⟩ ⟨more, hbc⟩
    exact ⟨errands ++ more, by rw [afterErrands_append, ← hab, hbc]⟩
  noted _ _ _ _ := ⟨[], rfl⟩
  engine s w := by
    refine ⟨[.reach], ?_⟩
    show _ = ((((Use.work fun _ => pure ()).run s.connection).run w).1.2,
      (((Use.work fun _ => pure ()).run s.connection).run w).2)
    rw [run_work, perform_engine]
    rcases s.connection.ready.run w with ⟨⟨outcome, c⟩, w'⟩
    cases outcome <;> rfl
  searched e r := byErrands_outside (.search e r) rfl fun _ _ => rfl
  counted e r := byErrands_outside (.count e r) rfl fun _ _ => rfl
  examined e := byErrands_outside (.examine e) rfl fun _ _ => rfl
  told level source message := fun _ _ => ⟨[.tell level source message], rfl⟩
  announced type records := fun _ _ => ⟨[.announce type records], rfl⟩
  close _ _ := ⟨[.close], rfl⟩

/-- A session that has its connection for itself: after any history that ends by closing the
connection, the clients are as after errands. -/
theorem welcomed_clients_are_closed_once_over_any_history {deeds : List Deed}
    (hown : ∀ d ∈ deeds, ∀ work, d ≠ .elsewhere work) {s : Session}
    {settings : SearchSettings} {kinds : List (String × EngineKind)}
    (hfresh : s.connection = { settings, registry := { kinds } }) (w : World) :
    let (s', w') := after s w (deeds ++ [.close])
    s'.connection.engine = none ∧ ∃ calls, w'.calls = w.calls ++ calls ∧
      ∀ client ∈ Ledger.clientsOf w.replies calls, IsDone client := by
  have hdeeds : ∀ d ∈ deeds, Follows ByErrands d.run := fun d hd =>
    course_byErrands.deed (fun _ _ _ _ => ⟨[], rfl⟩) fun work hwork =>
      absurd hwork (hown d hd work)
  obtain ⟨errands, herrands⟩ := course_byErrands.after hdeeds s w
  have hclose : after s w (deeds ++ [.close]) =
      after (after s w deeds).1 (after s w deeds).2 [.close] := List.foldl_append
  have hend : ((after s w (deeds ++ [.close])).1.connection, (after s w (deeds ++ [.close])).2) =
      s.connection.afterErrands w (errands ++ [.close]) := by
    rw [afterErrands_append, ← herrands, hclose]
    rfl
  have hheld : Held settings kinds s.connection := hfresh ▸ held_fresh
  have hlaw := done_after_close hheld (by rw [hfresh]) errands w
  rw [← hend] at hlaw
  obtain ⟨hclosed, clients, hleads, hdone⟩ := hlaw
  obtain ⟨calls, hcalls, hclients⟩ := hleads.clientsOf
  exact ⟨hclosed, calls, hcalls, by rw [hclients]; exact hdone⟩

end Session

end SearchQuery
