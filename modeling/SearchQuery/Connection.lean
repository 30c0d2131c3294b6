-- A connection to the default engine of some settings. The engine is opened when it is
-- needed first, and kept until the connection is closed.
import SearchQuery.Registry
import SearchQuery.Settings

namespace SearchQuery

/-- A connection. -/
structure Connection where
  settings : SearchSettings := {}
  registry : Registry := {}
  /-- The engine, once it is open. -/
  engine : Option Engine := none

namespace Connection

/-- The part of the library that reports what happens here. -/
def source : String := "searchrecord.core.connection"

/-- The name of the engine to use. -/
def engineName (c : Connection) : String := c.settings.defaultEngine

/-- The settings of the engine to use. -/
def config (c : Connection) : EngineConfig :=
  (c.settings.engines.lookup c.engineName).getD {}

/-- Opens the engine. -/
def start (c : Connection) : Act (Except Fault Engine × Connection) := do
  if !c.config.enabled then return (.error (.disabled c.engineName), c)
  let args := (c.config.arguments c.engineName).map fun (name, v) => (Value.text name, v)
  let (outcome, registry) ← c.registry.start c.engineName args
  match outcome with
  | .error fault => return (.error fault, { c with registry })
  | .ok engine =>
    World.report .info source ("Opened connection using adapter '" ++ c.engineName ++ "'")
    return (.ok engine, { c with registry, engine := some engine })

/-- The engine, opened if it is not open yet. -/
def ready (c : Connection) : Act (Except Fault Engine × Connection) := do
  match c.engine with
  | some engine => return (.ok engine, c)
  | none => c.start

/-- Closes the engine if it is open. -/
def close (c : Connection) : Act Connection := do
  match c.engine with
  | none => return c
  | some _ => return { c with registry := ← c.registry.stopAll, engine := none }

end Connection

end SearchQuery
