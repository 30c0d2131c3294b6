-- What opening an engine does, step by step: its client is made, then the engine is asked for
-- a sign of life. Everything that opening can come to is here.
import SearchQuery.Proofs.ConnectionLife
import SearchQuery.Proofs.StepPaths

namespace SearchQuery

/-! ## Solr -/

namespace Solr

/-- The fault of a client that Solr does not welcome. -/
def unwelcome : Failure → Fault
  | .transport text => .unreachable "Solr" text
  | failure => failure.toFault

theorem run_greet (s : Solr) (w : World) :
    s.greet.run w =
      match w.outcome.accepted? with
      | .error failure => ((.error (unwelcome failure), s), w.asked (.get s.pingPath))
      | .ok _ =>
        ((.ok (), s), ((World.report .info source ("Connected to Solr collection '" ++
          s.collection.display ++ "' at " ++ s.address)).run (w.asked (.get s.pingPath))).2) := by
  unfold greet
  rw [StateT.run_bind, World.run_ask]
  dsimp only [bind]
  cases w.outcome.accepted? with
  | error failure => cases failure <;> rfl
  | ok answer => rfl

theorem run_start (s : Solr) (w : World) :
    s.start.run w =
      match s.opening with
      | .error fault => ((.error fault, s), w)
      | .ok opening =>
        match w.refusal? .http with
        | some failure => ((.error failure.toFault, s), w.constructed .http opening)
        | none => greet { s with live := true } |>.run (w.constructed .http opening) := by
  unfold start
  cases s.opening with
  | error fault => rfl
  | ok opening => exact World.run_construct_then .http opening w _ _

end Solr

/-! ## OpenSearch -/

namespace OpenSearch

/-- What the engine tells about its cluster, with the fault of a client that it does not
welcome. -/
def welcome (outcome : Outcome) : Except Fault (String × String) :=
  match outcome.body? with
  | .error failure => .error (unreachable failure.text)
  | .ok answer => (clusterOf answer).mapError fun fault => unreachable fault.message

/-- The call that makes a client. -/
def opening (o : OpenSearch) : Call := .clientWith o.clientArguments

/-- Asks the engine who it is, with the client that was just made. -/
def greet (o : OpenSearch) : Act (Except Fault Unit × OpenSearch) := do
  match (← World.ask .info).body? with
  | .error failure => return (.error (unreachable failure.text), o)
  | .ok answer =>
    match clusterOf answer with
    | .error fault => return (.error (unreachable fault.message), o)
    | .ok (cluster, version) =>
      World.report .info source
        ("Connected to OpenSearch cluster: " ++ cluster ++ " (v" ++ version ++ ")")
      return (.ok (), o)

theorem run_greet (o : OpenSearch) (w : World) :
    o.greet.run w =
      match welcome w.outcome with
      | .error fault => ((.error fault, o), w.asked .info)
      | .ok (cluster, version) =>
        ((.ok (), o),
          ((World.report .info source ("Connected to OpenSearch cluster: " ++ cluster ++
            " (v" ++ version ++ ")")).run (w.asked .info)).2) := by
  unfold greet welcome
  rw [StateT.run_bind, World.run_ask]
  show StateT.run (match w.outcome.body? with
    | .error failure => _
    | .ok answer => _) _ = _
  cases w.outcome.body? with
  | error failure => rfl
  | ok answer =>
    dsimp only
    cases clusterOf answer <;> rfl

theorem run_start (o : OpenSearch) (w : World) :
    o.start.run w =
      if !w.hasOpenSearch then ((.error .packageMissing, o), w)
      else
        match w.refusal? .openSearch with
        | some failure =>
          ((.error (unreachable failure.text), o), w.constructed .openSearch o.opening)
        | none => greet { o with live := true } |>.run (w.constructed .openSearch o.opening) := by
  unfold start
  rw [StateT.run_bind]
  show StateT.run (if (!w.hasOpenSearch) = true then _ else _) w = _
  cases w.hasOpenSearch with
  | false => rfl
  | true =>
    rw [Bool.not_true, if_neg Bool.false_ne_true, if_neg Bool.false_ne_true]
    exact World.run_construct_then .openSearch o.opening w _ _

end OpenSearch

/-! ## Engines of a kind -/

/-- The kind of an engine. -/
def Engine.kind : Engine → EngineKind
  | .solr _ => .solr
  | .openSearch _ => .openSearch
  | .shelf _ => .shelf

/-- Making gives an engine of the kind, and tells nothing. -/
theorem EngineKind.run_make (kind : EngineKind) (args : List (Value × Value)) (w : World) :
    match (kind.make args).run.run w with
    | (.ok e, w') => e.kind = kind ∧ w'.events = w.events
    | (.error _, w') => w'.events = w.events := by
  cases kind with
  | solr =>
    have hargs : (liftM (Solr.ofArguments args) : Step Solr).run.run w =
        (Solr.ofArguments args, w) := rfl
    unfold make
    rw [run_bind, hargs]
    cases Solr.ofArguments args with
    | error fault => rfl
    | ok s => exact ⟨rfl, rfl⟩
  | openSearch =>
    have hargs : (liftM (OpenSearch.ofArguments args) : Step OpenSearch).run.run w =
        (OpenSearch.ofArguments args, w) := rfl
    unfold make
    rw [run_bind, hargs]
    cases OpenSearch.ofArguments args with
    | error fault => rfl
    | ok o => exact ⟨rfl, rfl⟩
  | shelf =>
    have hfailing (v : Except Fault (List Value)) (w : World) :
        (liftM v : Step (List Value)).run.run w = (v, w) := rfl
    unfold make Shelf.ofArguments
    dsimp only
    rw [run_bind]
    cases (Value.field? "self" args).isSome with
    | true => rfl
    | false =>
      rw [if_neg Bool.false_ne_true, run_bind_plain (p := World.call _) rfl, run_bind, hfailing]
      cases ((Value.field? "fail" args).getD (.list [])).members with
      | error fault => rfl
      | ok failing => exact ⟨rfl, rfl⟩

/-- What holds of a start: an engine that is there keeps its kind and has a client if it needs
one, and an engine that is not there has told nothing. -/
def Engine.Begins (kind : EngineKind) (w : World) :
    (Except Fault Unit × Engine) × World → Prop
  | ((.ok _, e), w') =>
    e.kind = kind ∧ (kind ≠ .shelf → e.hasClient = true) ∧ w.events <+: w'.events
  | ((.error _, _), w') => w'.events = w.events

theorem Engine.begins_start (e : Engine) (w : World) : Begins e.kind w (e.start.run w) := by
  cases e with
  | solr s =>
    have hstart : (Engine.solr s).start.run w =
        (((s.start.run w).1.1, .solr (s.start.run w).1.2), (s.start.run w).2) := rfl
    rw [hstart, Solr.run_start]
    cases s.opening with
    | error fault => rfl
    | ok opening =>
      dsimp only
      split
      · rfl
      · rw [Solr.run_greet]
        cases (w.constructed .http opening).outcome.accepted? with
        | error failure => rfl
        | ok answer => exact ⟨rfl, fun _ => rfl, List.prefix_append _ _⟩
  | openSearch o =>
    have hstart : (Engine.openSearch o).start.run w =
        (((o.start.run w).1.1, .openSearch (o.start.run w).1.2), (o.start.run w).2) := rfl
    rw [hstart, OpenSearch.run_start]
    split
    · rfl
    · split
      · rfl
      · rw [OpenSearch.run_greet]
        cases OpenSearch.welcome (w.constructed .openSearch o.opening).outcome with
        | error fault => rfl
        | ok cluster => exact ⟨rfl, fun _ => rfl, List.prefix_append _ _⟩
  | shelf s =>
    have hstart : (Engine.shelf s).start.run w =
        ((((s.perform "initialize" .shelfStarted).run.run w).1, .shelf s),
          ((s.perform "initialize" .shelfStarted).run.run w).2) := rfl
    rw [hstart, Shelf.run_perform]
    cases s.failing.contains "initialize" with
    | true => rfl
    | false => exact ⟨rfl, fun h => absurd rfl h, List.prefix_rfl⟩

/-! ## Registries and connections -/

namespace Registry

/-- What an opening does: it makes an engine of the kind that the name has, and opens it. Every
way in which this can fail is here. -/
theorem run_opened (r : Registry) (name : String) (args : List (Value × Value)) (w : World) :
    (r.opened name args).run.run w =
      match takenArgument? args, r.kinds.lookup name with
      | some taken, _ =>
        (.error (.repeatedArgument "AdapterRegistry.initialize_adapter" taken), w)
      | none, none => (.error (.unknownAdapter name (Entries.keys r.kinds)), w)
      | none, some kind =>
        match (kind.make args).run.run w with
        | (.error fault, w) => (.error fault, w)
        | (.ok made, w) =>
          match made.start.run w with
          | ((.error fault, _), w) => (.error fault, w)
          | ((.ok _, engine), w) => (.ok engine, w) := by
  unfold opened
  dsimp only
  cases takenArgument? args with
  | some taken => rfl
  | none =>
    unfold kindOf
    cases r.kinds.lookup name with
    | none => rfl
    | some kind =>
      dsimp only
      rw [run_bind_ok, run_bind]
      rcases (kind.make args).run.run w with ⟨outcome, w'⟩
      cases outcome with
      | error fault => rfl
      | ok made =>
        dsimp only
        rcases hstart : made.start.run w' with ⟨⟨outcome, engine⟩, w''⟩
        rw [run_bind_plain hstart]
        cases outcome <;> rfl

end Registry

namespace Connection

variable (settings : SearchSettings) (kinds : List (String × EngineKind))

theorem along_opening {R : World → World → Prop} {allowed : Purpose → Prop}
    (h : Path R allowed) (hconnecting : allowed .connecting) (hlooking : allowed .looking)
    (hmaking : allowed .making) : Along R (opening settings kinds).run := fun w => by
  have hready := h.ready hconnecting hlooking hmaking (holding settings kinds none) w
  rw [ready_closed] at hready
  rcases hopening : (opening settings kinds).run.run w with ⟨outcome, w'⟩
  rw [hopening] at hready
  cases outcome <;> exact hready

/-- What is told of a connection that was opened. -/
def openedEvent (name : String) : Event :=
  ⟨.info, source, "Opened connection using adapter '" ++ name ++ "'"⟩

/-- An opening that comes to an engine has one of the kind that the name has, and tells so last.
An opening that fails tells nothing. -/
theorem begins_opening (w : World) :
    match (opening settings kinds).run.run w with
    | (.ok e, w') =>
      kinds.lookup settings.defaultEngine = some e.kind ∧
        (e.kind ≠ .shelf → e.hasClient = true) ∧
        ∃ told, w'.events = w.events ++ told ++ [openedEvent settings.defaultEngine]
    | (.error _, w') => w'.events = w.events := by
  by_cases hdisabled : Disabled settings
  · rw [run_opening_disabled hdisabled]
  · rw [run_opening_enabled hdisabled, Registry.run_opened]
    cases Registry.takenArgument? (openingArguments settings) with
    | some taken => rfl
    | none =>
      dsimp only
      cases kinds.lookup settings.defaultEngine with
      | none => rfl
      | some kind =>
        have hmake := kind.run_make (openingArguments settings) w
        dsimp only
        rcases hmade : (kind.make (openingArguments settings)).run.run w with ⟨outcome, w'⟩
        rw [hmade] at hmake
        cases outcome with
        | error fault => exact hmake
        | ok made =>
          obtain ⟨hkind, hstill⟩ := hmake
          have hstart := made.begins_start w'
          dsimp only
          rcases hstarted : made.start.run w' with ⟨⟨outcome, e⟩, w''⟩
          rw [hstarted] at hstart
          cases outcome with
          | error fault => exact Eq.trans hstart hstill
          | ok _ =>
            obtain ⟨hsame, hclient, told, htold⟩ := hstart
            rw [hkind] at hsame hclient
            refine ⟨congrArg some hsame.symm, by rwa [hsame], told ++ [⟨.info, Registry.source,
              "Initialized adapter: " ++ settings.defaultEngine⟩], ?_⟩
            rw [← List.append_assoc w.events, ← hstill, htold]
            rfl

end Connection

end SearchQuery
