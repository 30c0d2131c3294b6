-- The words that a YAML text is made of. Some of them have no characters of their own: they
-- tell where a list or a map of lines begins and ends, and where a key stands.
import SearchQuery.Yaml.Cursor

namespace SearchQuery.Yaml

/-- A line that says how a document is to be read. -/
inductive Directive where
  | version (major minor : Nat)
  /-- A short name for the start of tags. -/
  | handle (name start : String)
  | other
  deriving DecidableEq, Repr

/-- A word. -/
inductive Word where
  | textEnd
  | directive (d : Directive)
  | documentStart
  | documentEnd
  /-- The start of a list of lines. -/
  | listStart
  /-- The start of a map of lines. -/
  | mapStart
  /-- The end of a list or a map of lines. -/
  | blockEnd
  | openList
  | closeList
  | openMap
  | closeMap
  | comma
  | item
  | key
  | colon
  | alias (name : String)
  | anchor (name : String)
  | tag (handle : Option String) (suffix : String)
  /-- A text, bare or between quotes or on lines of its own. -/
  | scalar (text : String) (bare : Bool)
  deriving DecidableEq, Repr

/-- The name of a word in messages. -/
def Word.name : Word → String
  | .textEnd => "<stream end>"
  | .directive _ => "<directive>"
  | .documentStart => "<document start>"
  | .documentEnd => "<document end>"
  | .listStart => "<block sequence start>"
  | .mapStart => "<block mapping start>"
  | .blockEnd => "<block end>"
  | .openList => "["
  | .closeList => "]"
  | .openMap => "\x7b"
  | .closeMap => "\x7d"
  | .comma => ","
  | .item => "-"
  | .key => "?"
  | .colon => ":"
  | .alias _ => "<alias>"
  | .anchor _ => "<anchor>"
  | .tag .. => "<tag>"
  | .scalar .. => "<scalar>"

/-- A word and its place. -/
structure Token where
  word : Word
  start : Mark
  stop : Mark
  deriving DecidableEq, Repr

end SearchQuery.Yaml
