-- The life of a connection with a registry of its own. It opens an engine when one is needed
-- first, keeps it over everything that is done until it is closed, and closes it once.
import SearchQuery.Connection
import SearchQuery.Proofs.RegistrySteps

namespace SearchQuery

namespace Connection

/-! ## Uses of a connection -/

/-- Whatever can be done with a connection. -/
inductive Use where
  /-- Takes the engine and does something with it: hands it to a new search, asks it for
  results, a number or its health, or only looks at it. -/
  | work (job : Engine → Step Unit)
  /-- Something that does not go over the connection, such as a search that was begun before. -/
  | aside (act : Step Unit)
  /-- Closes the connection, also at the end of a block that it was opened for. -/
  | close

/-- Carries a use out. -/
def Use.run : Use → Connection → Act (Except Fault Unit × Connection)
  | .work job, c => do
    match ← c.ready with
    | (.ok e, c) => return (← (job e).run, c)
    | (.error fault, c) => return (.error fault, c)
  | .aside act, c => do return (← act.run, c)
  | .close, c => do return (.ok (), ← c.close)

/-- Whether a use needs an engine. -/
def Use.needsEngine : Use → Bool
  | .work _ => true
  | .aside _ | .close => false

/-- Connection and outside after some uses. A use that fails does not stop the next ones. -/
def after (c : Connection) (w : World) (uses : List Use) : Connection × World :=
  uses.foldl (fun (c, w) u => (((u.run c).run w).1.2, ((u.run c).run w).2)) (c, w)

theorem after_cons (c : Connection) (w : World) (u : Use) (uses : List Use) :
    after c w (u :: uses) = after ((u.run c).run w).1.2 ((u.run c).run w).2 uses := rfl

theorem run_work (job : Engine → Step Unit) (c : Connection) (w : World) :
    ((Use.work job).run c).run w =
      match c.ready.run w with
      | ((.ok e, c'), w') => ((((job e).run.run w').1, c'), ((job e).run.run w').2)
      | ((.error fault, c'), w') => ((.error fault, c'), w') := by
  have hrun : ((Use.work job).run c).run w =
      StateT.run (match (c.ready.run w).1 with
        | (.ok e, c) => do return (← (job e).run, c)
        | (.error fault, c) => return (.error fault, c)) (c.ready.run w).2 := rfl
  rw [hrun]
  rcases c.ready.run w with ⟨⟨outcome, c'⟩, w'⟩
  cases outcome <;> rfl

/-! ## Opening and closing -/

variable (settings : SearchSettings) (kinds : List (String × EngineKind))

/-- The connection while an engine is open, or none. Its registry has that engine alone. -/
def holding (engine : Option Engine) : Connection where
  settings
  registry := { kinds, active := engine.toList.map fun e => (settings.defaultEngine, e) }
  engine

/-- The settings disable the engine that they name. -/
def Disabled : Prop :=
  ((settings.engines.lookup settings.defaultEngine).getD {}).enabled = false

/-- Makes the engine that the settings name, and starts it. -/
def opening : Step Engine := do
  let name := settings.defaultEngine
  let config := (settings.engines.lookup name).getD {}
  if !config.enabled then throw (.disabled name)
  let args := (config.arguments name).map fun (key, v) => (Value.text key, v)
  if let some taken := Registry.takenArgument? args then
    throw (.repeatedArgument "AdapterRegistry.initialize_adapter" taken)
  let made ← (← Registry.kindOf { kinds } name).make args
  let (outcome, engine) ← made.start
  outcome
  World.report .info Registry.source ("Initialized adapter: " ++ name)
  World.report .info source ("Opened connection using adapter '" ++ name ++ "'")
  return engine

variable {settings kinds}

/-- An engine that is disabled is not even made. -/
theorem run_opening_disabled (h : Disabled settings) (w : World) :
    (opening settings kinds).run.run w = (.error (.disabled settings.defaultEngine), w) := by
  unfold Disabled at h
  unfold opening
  dsimp only
  rw [h]
  rfl

variable (settings) in
/-- The arguments that the settings give to the engine that they name. -/
def openingArguments : List (Value × Value) :=
  (((settings.engines.lookup settings.defaultEngine).getD {}).arguments
    settings.defaultEngine).map fun (name, v) => (Value.text name, v)

/-- An opening makes and starts an engine in a registry where none is open, and tells so. -/
theorem run_opening_enabled (h : ¬ Disabled settings) (w : World) :
    (opening settings kinds).run.run w =
      match (Registry.opened { kinds } settings.defaultEngine
        (openingArguments settings)).run.run w with
      | (.error fault, w) => (.error fault, w)
      | (.ok e, w) =>
        (.ok e, ((do
          World.report .info Registry.source ("Initialized adapter: " ++ settings.defaultEngine)
          World.report .info source
            ("Opened connection using adapter '" ++ settings.defaultEngine ++ "'") :
              Act Unit).run w).2) := by
  have hopening : opening settings kinds =
      Registry.opened { kinds } settings.defaultEngine (openingArguments settings) >>=
        fun e => do
          World.report .info Registry.source ("Initialized adapter: " ++ settings.defaultEngine)
          World.report .info source
            ("Opened connection using adapter '" ++ settings.defaultEngine ++ "'")
          return e := by
    unfold opening Registry.opened openingArguments
    unfold Disabled at h
    dsimp only
    rw [Bool.not_eq_false] at h
    rw [h]
    cases Registry.takenArgument? (List.map _ _) with
    | some taken => rfl
    | none =>
      simp only [bind_assoc, pure_bind]
      rfl
  rw [hopening, run_bind]
  rcases (Registry.opened _ _ _).run.run w with ⟨outcome, w'⟩
  cases outcome <;> rfl

theorem run_start_disabled {c : Connection} (h : Disabled c.settings) (w : World) :
    c.start.run w = ((.error (.disabled c.engineName), c), w) := by
  have hconfig : c.config.enabled = false := h
  unfold start
  rw [hconfig]
  rfl

theorem run_start_enabled {c : Connection} (h : ¬ Disabled c.settings) (w : World) :
    c.start.run w =
      match (c.registry.start c.engineName
        ((c.config.arguments c.engineName).map fun (name, v) => (Value.text name, v))).run w with
      | ((.error fault, registry), w) => ((.error fault, { c with registry }), w)
      | ((.ok e, registry), w) =>
        ((.ok e, { c with registry, engine := some e }),
          ((World.report .info source ("Opened connection using adapter '" ++ c.engineName ++
            "'")).run w).2) := by
  have hconfig : c.config.enabled = true := Bool.not_eq_false _ ▸ h
  unfold start
  rw [hconfig, Bool.not_true, if_neg Bool.false_ne_true]
  dsimp only
  rw [StateT.run_bind]
  rcases (c.registry.start c.engineName _).run w with ⟨⟨outcome, registry⟩, w'⟩
  cases outcome <;> rfl

theorem ready_open (e : Engine) (w : World) :
    (holding settings kinds (some e)).ready.run w = ((.ok e, holding settings kinds (some e)), w) :=
  rfl

theorem ready_closed (w : World) :
    (holding settings kinds none).ready.run w =
      match (opening settings kinds).run.run w with
      | (.ok e, w') => ((.ok e, holding settings kinds (some e)), w')
      | (.error fault, w') => ((.error fault, holding settings kinds none), w') := by
  have hready : (holding settings kinds none).ready.run w =
      (holding settings kinds none).start.run w := rfl
  have hregistry : (holding settings kinds none).registry = { kinds } := rfl
  have hname : (holding settings kinds none).engineName = settings.defaultEngine := rfl
  rw [hready]
  by_cases hdisabled : Disabled settings
  · rw [run_opening_disabled hdisabled, run_start_disabled hdisabled]
    rfl
  · have harguments : ((holding settings kinds none).config.arguments
        (holding settings kinds none).engineName).map (fun (name, v) => (Value.text name, v)) =
        openingArguments settings := rfl
    rw [run_opening_enabled hdisabled, run_start_enabled hdisabled, Registry.run_start, hregistry,
      harguments, hname]
    rcases (Registry.opened { kinds } settings.defaultEngine
      (openingArguments settings)).run.run w with ⟨outcome, w'⟩
    -- The registry of a closed connection is empty, so what is put there stands alone.
    cases outcome <;> rfl

/-! ## One use -/

theorem run_work_open (e : Engine) (job : Engine → Step Unit) (w : World) :
    ((Use.work job).run (holding settings kinds (some e))).run w =
      ((((job e).run.run w).1, holding settings kinds (some e)), ((job e).run.run w).2) := by
  rw [run_work, ready_open]

theorem run_work_closed (job : Engine → Step Unit) (w : World) :
    ((Use.work job).run (holding settings kinds none)).run w =
      match (opening settings kinds).run.run w with
      | (.ok e, w') =>
        ((((job e).run.run w').1, holding settings kinds (some e)), ((job e).run.run w').2)
      | (.error fault, w') => ((.error fault, holding settings kinds none), w') := by
  rw [run_work, ready_closed]
  rcases (opening settings kinds).run.run w with ⟨outcome, w'⟩
  cases outcome <;> rfl

/-- While an engine is open, only closing changes the connection. -/
theorem kept_by_use (e : Engine) {u : Use} (h : u ≠ .close) (w : World) :
    ((u.run (holding settings kinds (some e))).run w).1.2 = holding settings kinds (some e) := by
  cases u with
  | work job => rw [run_work_open]
  | aside act => rfl
  | close => contradiction

/-- While none is open, only work changes the connection, and none does if the engine is
disabled. -/
theorem kept_closed_by_use {u : Use}
    (h : u.needsEngine = true → Disabled settings) (w : World) :
    ((u.run (holding settings kinds none)).run w).1.2 = holding settings kinds none := by
  cases u with
  | work job => rw [run_work_closed, run_opening_disabled (h rfl)]
  | aside act => rfl
  | close => rfl

/-! ## Runs of uses -/

theorem kept_after {c : Connection} {uses : List Use}
    (h : ∀ u ∈ uses, ∀ w, ((u.run c).run w).1.2 = c) (w : World) : (after c w uses).1 = c := by
  induction uses generalizing w with
  | nil => rfl
  | cons u uses ih =>
    rw [after_cons, h u List.mem_cons_self]
    exact ih (fun u hu => h u (List.mem_cons_of_mem _ hu)) _

theorem closed_after (n : Nat) (w : World) :
    after (holding settings kinds none) w (List.replicate n .close) =
      (holding settings kinds none, w) := by
  induction n with
  | zero => rfl
  | succ n ih => exact ih

/-! ## The life of a connection -/

variable (settings kinds)

/-- The connection holds one engine or none, and none if the engine is disabled. -/
structure Held (c : Connection) : Prop where
  holds : c = holding settings kinds c.engine
  disabled : Disabled settings → c.engine = none

/-- What holds of a connection and the outside at every moment. -/
structure Orderly (c : Connection) (w : World) : Prop where
  /-- The engine of the connection, if there is one, is the only active one of the registry. -/
  held : c = holding settings kinds c.engine
  /-- With an engine open, work is done with that engine and with nothing else. -/
  worked : ∀ e, c.engine = some e → ∀ job, ((Use.work job).run c).run w =
    ((((job e).run.run w).1, c), ((job e).run.run w).2)
  /-- The engine stays until the connection is closed. -/
  kept : ∀ e, c.engine = some e → ∀ more, .close ∉ more → (after c w more).1 = c
  /-- With no engine open, work makes and starts one. If that fails, so does the work, and the
  connection is closed as before. -/
  opened : c.engine = none → ∀ job, ((Use.work job).run c).run w =
    match (opening settings kinds).run.run w with
    | (.ok e, w') =>
      ((((job e).run.run w').1, holding settings kinds (some e)), ((job e).run.run w').2)
    | (.error fault, w') => ((.error fault, c), w')
  /-- Nothing but work opens an engine. -/
  waited : c.engine = none → ∀ more, (∀ u ∈ more, u.needsEngine = false) → (after c w more).1 = c
  /-- Closing shuts the open engine down by one stop, and tells how that went. However often it
  is repeated, that stop with its last calls of the engine remains the only one. -/
  closed : ∀ e, c.engine = some e → ∀ n,
    e.stop.run w = (Registry.stopped e, { w with calls := w.calls ++ Registry.farewell e }) ∧
    after c w (List.replicate (n + 1) .close) =
      (holding settings kinds none, { (e.stop.run w).2 with
        events := w.events ++
          [Registry.lastEvent settings.defaultEngine (e.stop.run w).1.1] })
  /-- Closing does nothing if no engine is open. -/
  idle : c.engine = none → ∀ n, after c w (List.replicate n .close) = (c, w)
  /-- An engine that is disabled is never open, and asking for it does nothing outside. -/
  disabled : Disabled settings →
    c.engine = none ∧ ∀ job, ((Use.work job).run c).run w =
      ((.error (.disabled settings.defaultEngine), c), w)

variable {settings kinds}

theorem held_fresh : Held settings kinds { settings, registry := { kinds } } where
  holds := rfl
  disabled _ := rfl

theorem held_open {e : Engine} (h : ¬ Disabled settings) :
    Held settings kinds (holding settings kinds (some e)) where
  holds := rfl
  disabled hdisabled := absurd hdisabled h

/-- One use: an engine is held when it was opened, kept until the connection is closed, and
never held when it is disabled. -/
theorem held_by_use {c : Connection} (h : Held settings kinds c) (u : Use) (w : World) :
    Held settings kinds ((u.run c).run w).1.2 := by
  rw [h.holds]
  cases hengine : c.engine with
  | some e =>
    have hopen : Held settings kinds (holding settings kinds (some e)) := by
      rw [← hengine, ← h.holds]
      exact h
    cases u with
    | work job =>
      rw [run_work_open]
      exact hopen
    | aside act => exact hopen
    | close => exact held_fresh
  | none =>
    cases u with
    | work job =>
      rw [run_work_closed]
      rcases hopening : (opening settings kinds).run.run w with ⟨outcome, w'⟩
      cases outcome with
      | ok e =>
        -- An engine was opened, so it cannot be disabled.
        refine held_open fun hdisabled => ?_
        rw [run_opening_disabled hdisabled] at hopening
        cases hopening
      | error fault => exact held_fresh
    | aside act => exact held_fresh
    | close => exact held_fresh

theorem held_after {c : Connection} (h : Held settings kinds c) (uses : List Use) (w : World) :
    Held settings kinds (after c w uses).1 := by
  induction uses generalizing c w with
  | nil => exact h
  | cons u uses ih => exact ih (held_by_use h u w) _

theorem orderly_of_held {c : Connection} (h : Held settings kinds c) (w : World) :
    Orderly settings kinds c w where
  held := h.holds
  worked e he job := by
    rw [h.holds, he]
    exact run_work_open e job w
  kept e he more hmore := by
    rw [h.holds, he]
    exact kept_after (fun u hu => kept_by_use e fun hclose => hmore (hclose ▸ hu)) w
  opened hnone job := by
    rw [h.holds, hnone]
    exact run_work_closed job w
  waited hnone more hmore := by
    rw [h.holds, hnone]
    refine kept_after (fun u hu => kept_closed_by_use fun hneeds => ?_) w
    rw [hmore u hu] at hneeds
    contradiction
  closed e he n := by
    have hstop := Registry.run_stop e w
    have hclosed : ((Use.close.run (holding settings kinds (some e))).run w).2 =
        ((Registry.stopOne settings.defaultEngine e).run w).2 := rfl
    refine ⟨hstop, ?_⟩
    rw [h.holds, he, List.replicate_succ, after_cons, hclosed, Registry.run_stopOne, hstop]
    exact closed_after n _
  idle hnone n := by
    rw [h.holds, hnone]
    exact closed_after n w
  disabled hdisabled := by
    have hnone := h.disabled hdisabled
    refine ⟨hnone, fun job => ?_⟩
    rw [h.holds, hnone, run_work_closed, run_opening_disabled hdisabled]

variable (settings kinds)

/-- Whatever was done with a connection that has a registry of its own, in any order and with
any failures: its engine is the one active engine of the registry or neither has one; what is
done next opens an engine only if it needs one and none is open, and uses the open one else;
and closing stops the open engine once. -/
theorem one_engine_from_opening_to_closing (uses : List Use) (w : World) :
    let (c, w') := after { settings, registry := { kinds } } w uses
    Orderly settings kinds c w' :=
  orderly_of_held (held_after held_fresh uses w) _

end Connection

end SearchQuery
