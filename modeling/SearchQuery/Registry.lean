-- The kinds of engines that are known by name, and the engines that are open. Names keep
-- the order in which they came first.
import SearchQuery.Engine

namespace SearchQuery

/-- A registry of engines. -/
structure Registry where
  kinds : List (String × EngineKind) := []
  active : List (String × Engine) := []

namespace Registry

/-- The part of the library that reports what happens here. -/
def source : String := "searchrecord.adapters.base.registry"

/-- Makes a kind known under a name, in place of a kind of that name before. -/
def register (r : Registry) (name : String) (kind : EngineKind) : Act Registry := do
  if Entries.has name r.kinds then
    World.report .warning source ("Overwriting existing adapter registration: " ++ name)
  World.report .info source ("Registered adapter: " ++ name)
  return { r with kinds := Entries.put name kind r.kinds }

/-- The registry with the engines that the library brings. -/
def standard : Act Registry := do
  let r ← register {} "solr" .solr
  r.register "opensearch" .openSearch

/-- The kind of a name. -/
def kindOf (r : Registry) (name : String) : Except Fault EngineKind :=
  match r.kinds.lookup name with
  | some kind => .ok kind
  | none => .error (.unknownAdapter name (Entries.keys r.kinds))

/-- The names that arguments cannot have, since they are taken. -/
def takenArgument? (args : List (Value × Value)) : Option String :=
  args.findSome? fun (k, _) =>
    match k.text? with
    | some name => if name == "self" || name == "name" then some name else none
    | none => none

/-- Makes an engine of the kind of a name, and opens it. -/
def opened (r : Registry) (name : String) (args : List (Value × Value)) : Step Engine := do
  if let some taken := takenArgument? args then
    throw (.repeatedArgument "AdapterRegistry.initialize_adapter" taken)
  let made ← (← r.kindOf name).make args
  let (outcome, engine) ← made.start
  outcome
  return engine

/-- Makes an engine and opens it. Only an engine that could be opened becomes active. -/
def start (r : Registry) (name : String) (args : List (Value × Value)) :
    Act (Except Fault Engine × Registry) := do
  match ← (r.opened name args).run with
  | .error fault => return (.error fault, r)
  | .ok engine =>
    let r := { r with active := Entries.put name engine r.active }
    World.report .info source ("Initialized adapter: " ++ name)
    return (.ok engine, r)

/-- The open engine of a name. -/
def get (r : Registry) (name : String) : Except Fault Engine :=
  match r.active.lookup name with
  | some engine => .ok engine
  | none => .error (.notStarted name)

/-- The engine that was opened first. -/
def getDefault (r : Registry) : Except Fault Engine :=
  match r.active with
  | (_, engine) :: _ => .ok engine
  | [] => .error .noneStarted

/-- How one engine is; an engine that cannot even be asked is unhealthy. -/
def healthOf (e : Engine) : Act Health := do
  match ← e.health.run with
  | .ok report => return report
  | .error fault => return .unhealthy fault.message

/-- How every open engine is. -/
def healthAll (r : Registry) : Act (List (String × Health)) :=
  r.active.mapM fun (name, e) => do return (name, ← healthOf e)

/-- Closes one engine and reports how that went. -/
def stopOne (name : String) (e : Engine) : Act Unit := do
  match (← e.stop).1 with
  | .ok _ => World.report .info source ("Shut down adapter: " ++ name)
  | .error _ => World.report .warning source ("Error shutting down adapter: " ++ name)

/-- Closes every open engine, also if some of them fail on the way. -/
def stopAll (r : Registry) : Act Registry := do
  r.active.forM fun (name, e) => stopOne name e
  return { r with active := [] }

end Registry

end SearchQuery
