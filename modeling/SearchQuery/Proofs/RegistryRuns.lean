-- Runs of a registry. After any calls, starts that fail among them, the names, the kinds and
-- the open engines of a registry are told by what its calls came to.
import Mathlib.Data.List.Forall2
import SearchQuery.Proofs.Openings

namespace SearchQuery.Registry

/-! ## Calls and what they come to -/

/-- A call on a registry. -/
inductive Call where
  | register (name : String) (kind : EngineKind)
  /-- Makes an engine from arguments by name and opens it. -/
  | start (name : String) (args : List (Value × Value))
  | stopAll

/-- What a call came to. -/
inductive Happening where
  | registered (name : String) (kind : EngineKind)
  | started (name : String) (engine : Engine)
  | failed (name : String) (fault : Fault)
  | stopped

/-- Carries a call out. -/
def Call.run : Call → Registry → Act (Happening × Registry)
  | .register name kind, r => do return (.registered name kind, ← r.register name kind)
  | .start name args, r => do
    match ← r.start name args with
    | (.ok engine, r) => return (.started name engine, r)
    | (.error fault, r) => return (.failed name fault, r)
  | .stopAll, r => do return (.stopped, ← r.stopAll)

/-- What some calls come to, one after the other, with the registry behind them. -/
def runAll : List Call → Registry → Act (List Happening × Registry)
  | [], r => return ([], r)
  | c :: calls, r => do
    let (x, r) ← c.run r
    let (xs, r) ← runAll calls r
    return (x :: xs, r)

/-! ## What a history tells -/

namespace Happening

/-- The name and the kind that were registered. -/
def registration? : Happening → Option (String × EngineKind)
  | .registered name kind => some (name, kind)
  | _ => none

/-- The engine that was opened, with its name. -/
def opening? : Happening → Option (String × Engine)
  | .started name engine => some (name, engine)
  | _ => none

def isStop : Happening → Bool
  | .stopped => true
  | _ => false

end Happening

/-- Everything that was registered. -/
def registrations (history : List Happening) : List (String × EngineKind) :=
  history.filterMap Happening.registration?

/-- Everything behind the last stop. -/
def sinceStop (history : List Happening) : List Happening :=
  (history.reverse.takeWhile (!·.isStop)).reverse

/-- Every engine that was opened since the last stop. -/
def openings (history : List Happening) : List (String × Engine) :=
  (sinceStop history).filterMap Happening.opening?

/-- The names of some pairs, in the order in which they came first. -/
def firstNames {α : Type} (pairs : List (String × α)) : List String :=
  (pairs.map (·.1)).eraseDups

/-- What came last with a name. -/
def latest? {α : Type} (pairs : List (String × α)) (name : String) : Option α :=
  pairs.reverse.lookup name

theorem registrations_append (history : List Happening) (x : Happening) :
    registrations (history ++ [x]) = registrations history ++ x.registration?.toList := by
  unfold registrations
  rw [List.filterMap_append]
  cases h : x.registration? <;> simp [h]

theorem openings_append (history : List Happening) (x : Happening) :
    openings (history ++ [x]) =
      if x.isStop then [] else openings history ++ x.opening?.toList := by
  unfold openings sinceStop
  rw [List.reverse_append, List.reverse_singleton, List.singleton_append, List.takeWhile_cons]
  cases hstop : x.isStop with
  | true => rfl
  | false =>
    cases h : x.opening? <;> simp [h]

/-! ## Maps that are written to -/

/-- The map holds every name of some pairs in the order in which it came first, with what came
with it last. -/
structure Holds {α : Type} (entries pairs : List (String × α)) : Prop where
  names : Entries.keys entries = firstNames pairs
  latest : ∀ name, entries.lookup name = latest? pairs name

theorem firstNames_append {α : Type} (pairs : List (String × α)) (name : String) (a : α) :
    firstNames (pairs ++ [(name, a)]) =
      if name ∈ firstNames pairs then firstNames pairs else firstNames pairs ++ [name] := by
  unfold firstNames
  rw [List.map_append, List.eraseDups_append]
  simp only [List.mem_eraseDups]
  by_cases h : name ∈ pairs.map (·.1)
  · rw [if_pos h]
    simp [List.removeAll, h]
  · have hnew : [name].removeAll (pairs.map (·.1)) = [name] := by simp [List.removeAll, h]
    rw [if_neg h, List.map_singleton, hnew]
    rfl

theorem holds_nil {α : Type} : Holds ([] : List (String × α)) [] := ⟨rfl, fun _ => rfl⟩

theorem holds_put {α : Type} {entries pairs : List (String × α)} (h : Holds entries pairs)
    (name : String) (a : α) : Holds (Entries.put name a entries) (pairs ++ [(name, a)]) where
  names := by
    rw [Entries.keys_put, firstNames_append, h.names]
  latest other := by
    unfold latest?
    rw [Entries.lookup_put, List.reverse_append, List.reverse_singleton, List.singleton_append,
      List.lookup_cons, h.latest]
    cases other == name <;> rfl

/-! ## One call -/

/-- What a call leaves of a registry, told by what it came to. -/
def Happening.apply (r : Registry) : Happening → Registry
  | .registered name kind => { r with kinds := Entries.put name kind r.kinds }
  | .started name engine => { r with active := Entries.put name engine r.active }
  | .failed _ _ => r
  | .stopped => { r with active := [] }

/-- An engine can only be opened under a name that is registered. -/
def Happening.Possible (r : Registry) : Happening → Prop
  | .started name _ => name ∈ Entries.keys r.kinds
  | _ => True

theorem run_call_start (r : Registry) (name : String) (args : List (Value × Value)) (w : World) :
    ((Call.start name args).run r).run w =
      match (r.start name args).run w with
      | ((.ok engine, r), w) => ((.started name engine, r), w)
      | ((.error fault, r), w) => ((.failed name fault, r), w) := by
  have hrun : ((Call.start name args).run r).run w =
      StateT.run (match ((r.start name args).run w).1 with
        | (.ok engine, r) => pure (Happening.started name engine, r)
        | (.error fault, r) => pure (Happening.failed name fault, r))
        ((r.start name args).run w).2 := rfl
  rw [hrun]
  rcases (r.start name args).run w with ⟨⟨outcome, r'⟩, w'⟩
  cases outcome <;> rfl

/-- A start that fails leaves the registry as it is, wherever it fails. -/
theorem start_unhurt {r r' : Registry} {name : String} {args : List (Value × Value)}
    {fault : Fault} {w w' : World}
    (h : (r.start name args).run w = ((.error fault, r'), w')) : r' = r := by
  rw [run_start] at h
  rcases hopened : (r.opened name args).run.run w with ⟨outcome, w''⟩
  rw [hopened] at h
  cases outcome <;> cases h
  rfl

theorem apply_run (c : Call) (r : Registry) (w : World) :
    ((c.run r).run w).1.2 = ((c.run r).run w).1.1.apply r ∧
      ((c.run r).run w).1.1.Possible r := by
  cases c with
  | register name kind =>
    have hput : ((r.register name kind).run w).1 =
        { r with kinds := Entries.put name kind r.kinds } := by
      unfold register
      dsimp only
      split <;> rfl
    exact ⟨hput, trivial⟩
  | stopAll => exact ⟨rfl, trivial⟩
  | start name args =>
    rw [run_call_start, run_start, run_opened]
    cases takenArgument? args with
    | some taken => exact ⟨rfl, trivial⟩
    | none =>
      cases hkind : r.kinds.lookup name with
      | none => exact ⟨rfl, trivial⟩
      | some kind =>
        dsimp only
        rcases (kind.make args).run.run w with ⟨outcome, w'⟩
        cases outcome with
        | error fault => exact ⟨rfl, trivial⟩
        | ok made =>
          dsimp only
          rcases made.start.run w' with ⟨⟨outcome, engine⟩, w''⟩
          cases outcome with
          | error fault => exact ⟨rfl, trivial⟩
          | ok _ => exact ⟨rfl, Entries.lookup_isSome.mp (by rw [hkind]; rfl)⟩

/-! ## Runs of calls -/

/-- The registry holds what its history tells, and has kinds for all its open engines. -/
structure Follows (history : List Happening) (r : Registry) : Prop where
  kinds : Holds r.kinds (registrations history)
  active : Holds r.active (openings history)
  known : ∀ name ∈ Entries.keys r.active, name ∈ Entries.keys r.kinds

theorem follows_empty : Follows [] {} := ⟨holds_nil, holds_nil, fun _ h => h⟩

/-- One call: whatever it comes to, the registry holds what the longer history tells. -/
theorem follows_apply {history : List Happening} {r : Registry} (h : Follows history r)
    {x : Happening} (hx : x.Possible r) : Follows (history ++ [x]) (x.apply r) := by
  cases x with
  | registered name kind =>
    refine ⟨?_, ?_, fun other hother => ?_⟩
    · rw [registrations_append]
      exact holds_put h.kinds name kind
    · rw [openings_append]
      simpa [Happening.apply, Happening.isStop, Happening.opening?] using h.active
    · have hknown := h.known other hother
      show other ∈ Entries.keys (Entries.put name kind r.kinds)
      rw [Entries.keys_put]
      split
      · exact hknown
      · exact List.mem_append_left _ hknown
  | started name engine =>
    refine ⟨?_, ?_, fun other hother => ?_⟩
    · rw [registrations_append]
      simpa [Happening.apply, Happening.registration?] using h.kinds
    · rw [openings_append]
      exact holds_put h.active name engine
    · have hkeys : other ∈ Entries.keys (Entries.put name engine r.active) := hother
      rw [Entries.keys_put] at hkeys
      split at hkeys
      · exact h.known other hkeys
      · rcases List.mem_append.mp hkeys with hold | hnew
        · exact h.known other hold
        · rw [List.mem_singleton.mp hnew]
          exact hx
  | failed name fault =>
    refine ⟨?_, ?_, h.known⟩
    · rw [registrations_append]
      simpa [Happening.apply, Happening.registration?] using h.kinds
    · rw [openings_append]
      simpa [Happening.apply, Happening.isStop, Happening.opening?] using h.active
  | stopped =>
    refine ⟨?_, ?_, fun _ hnone => nomatch hnone⟩
    · rw [registrations_append]
      simpa [Happening.apply, Happening.registration?] using h.kinds
    · rw [openings_append]
      exact holds_nil

theorem run_runAll_cons (c : Call) (calls : List Call) (r : Registry) (w : World) :
    (runAll (c :: calls) r).run w =
      let first := (c.run r).run w
      let rest := (runAll calls first.1.2).run first.2
      ((first.1.1 :: rest.1.1, rest.1.2), rest.2) := rfl

theorem follows_runAll {history : List Happening} {r : Registry} (h : Follows history r)
    (calls : List Call) (w : World) :
    Follows (history ++ ((runAll calls r).run w).1.1) ((runAll calls r).run w).1.2 := by
  induction calls generalizing history r w with
  | nil =>
    show Follows (history ++ []) r
    rwa [List.append_nil]
  | cons c calls ih =>
    obtain ⟨happly, hpossible⟩ := apply_run c r w
    have hfirst := follows_apply h hpossible
    rw [← happly] at hfirst
    rw [run_runAll_cons]
    dsimp only
    rw [← List.singleton_append, ← List.append_assoc]
    exact ih hfirst _

/-! ## The law of registries -/

/-- What a registry tells about itself is what its history tells. -/
structure Refines (history : List Happening) (r : Registry) : Prop where
  /-- The names that are registered, in the order in which they came first. -/
  names : Entries.keys r.kinds = firstNames (registrations history)
  /-- Every name has the kind that it was registered with last. Other names have none. -/
  kinds : ∀ name, r.kindOf name =
    match latest? (registrations history) name with
    | some kind => .ok kind
    | none => .error (.unknownAdapter name (firstNames (registrations history)))
  /-- The names of the open engines: those of the engines that were opened since the last
  stop, in the order in which they came first. -/
  active : Entries.keys r.active = firstNames (openings history)
  /-- All of them are registered. -/
  known : ∀ name ∈ Entries.keys r.active, name ∈ Entries.keys r.kinds
  /-- The engine of a name is the one that was opened last under it. -/
  got : ∀ name engine, r.get name = .ok engine ↔ latest? (openings history) name = some engine
  /-- Just the names without an open engine are refused. -/
  missing : ∀ name fault,
    r.get name = .error fault ↔ name ∉ Entries.keys r.active ∧ fault = .notStarted name
  /-- The default is the engine of the first name. -/
  default : ∀ name names, Entries.keys r.active = name :: names → r.getDefault = r.get name
  /-- There is no default just when no engine is open. -/
  noDefault : ∀ fault,
    r.getDefault = .error fault ↔ Entries.keys r.active = [] ∧ fault = .noneStarted
  /-- A further start that fails, on a name that is not registered or later on, leaves the
  registry with all its engines as it is. -/
  unhurt : ∀ name args w fault r' w', (r.start name args).run w = ((.error fault, r'), w') →
    r' = r ∧ ((Call.start name args).run r).run w = ((.failed name fault, r), w')
  /-- A start under a name that is not registered fails and does nothing outside. -/
  refused : ∀ name args w, takenArgument? args = none → name ∉ Entries.keys r.kinds →
    (r.start name args).run w = ((.error (.unknownAdapter name (Entries.keys r.kinds)), r), w)

theorem not_mem_keys {α : Type} {entries : List (String × α)} {name : String} :
    name ∉ Entries.keys entries ↔ entries.lookup name = none := by
  rw [← Entries.lookup_isSome]
  cases entries.lookup name <;> simp

theorem refines_of_follows {history : List Happening} {r : Registry} (h : Follows history r) :
    Refines history r where
  names := h.kinds.names
  kinds name := by
    unfold kindOf
    rewrite [h.kinds.latest, h.kinds.names]
    cases latest? (registrations history) name <;> rfl
  active := h.active.names
  known := h.known
  got name engine := by
    unfold get
    rw [h.active.latest]
    cases latest? (openings history) name <;> simp
  missing name fault := by
    rw [not_mem_keys]
    unfold get
    cases r.active.lookup name <;> simp [eq_comm]
  default name names hfirst := by
    unfold getDefault get
    rcases hactive : r.active with - | ⟨⟨first, engine⟩, rest⟩
    · rw [hactive] at hfirst
      cases hfirst
    · rw [hactive, Entries.keys_cons, List.cons.injEq] at hfirst
      rw [← hfirst.1]
      simp
  noDefault fault := by
    unfold getDefault
    rcases r.active with - | ⟨⟨first, engine⟩, rest⟩
    · simp [Entries.keys, eq_comm]
    · simp [Entries.keys_cons]
  unhurt name args w fault r' w' hfails := by
    obtain rfl := start_unhurt hfails
    refine ⟨rfl, ?_⟩
    rw [run_call_start, hfails]
  refused name args w htaken hunknown := by
    rw [run_start, run_opened, htaken, not_mem_keys.mp hunknown]

/-- What a call can come to. -/
inductive Call.ComesTo : Call → Happening → Prop where
  | registered (name kind) : ComesTo (.register name kind) (.registered name kind)
  | started (name args engine) : ComesTo (.start name args) (.started name engine)
  | failed (name args fault) : ComesTo (.start name args) (.failed name fault)
  | stopped : ComesTo .stopAll .stopped

theorem comesTo_run (c : Call) (r : Registry) (w : World) :
    c.ComesTo ((c.run r).run w).1.1 := by
  cases c with
  | register name kind => exact .registered name kind
  | stopAll => exact .stopped
  | start name args =>
    rw [run_call_start]
    rcases (r.start name args).run w with ⟨⟨outcome, r'⟩, w'⟩
    cases outcome with
    | ok e => exact .started name args e
    | error fault => exact .failed name args fault

theorem comesTo_runAll (calls : List Call) (r : Registry) (w : World) :
    List.Forall₂ Call.ComesTo calls ((runAll calls r).run w).1.1 := by
  induction calls generalizing r w with
  | nil => exact .nil
  | cons c calls ih => exact .cons (comesTo_run c r w) (ih _ _)

/-- After any calls on an empty registry, starts that fail among them, the registry tells what
its history tells, and the history has one happening for each call. -/
theorem a_registry_tells_what_its_calls_came_to (calls : List Call) (w : World) :
    let ((history, r), _) := (runAll calls {}).run w
    List.Forall₂ Call.ComesTo calls history ∧ Refines history r :=
  ⟨comesTo_runAll calls {} w, refines_of_follows (follows_runAll follows_empty calls w)⟩

end SearchQuery.Registry
