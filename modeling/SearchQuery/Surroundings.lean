-- What the program finds around it: variables by name, files by path, how deep its calls may
-- go, and what its output takes.
import SearchQuery.Text.Split

namespace SearchQuery

/-- What is around the program. Paths start in the working directory. -/
structure Surroundings where
  /-- Variables by name. -/
  environment : List (String × String) := []
  files : List (String × String) := []
  /-- How often lists and maps may lie inside each other in the JSON of a condition, before
  more calls are inside each other than there may be. -/
  room : Nat := 1000
  /-- The same for the JSON of settings, which is read with other calls under way. -/
  settingsRoom : Nat := 1000
  /-- What standard output says against a text that it does not take. -/
  refusal? : String → Option String := fun _ => none

namespace Path

/-- The slashes at the start of a path: none, one, or exactly two. -/
def root (cs : List Char) : String :=
  match (cs.takeWhile (· == '/')).length with
  | 0 => ""
  | 2 => "//"
  | _ => "/"

/-- The path starts at the top of everything. -/
def isFromTop (path : String) : Bool := path.toList.head? == some '/'

/-- The steps of a path that lead somewhere else. -/
def steps (path : String) : List String :=
  ((Text.splitAll '/' path.toList).map String.ofList).filter fun step => step != "" && step != "."

/-- The path without steps that lead nowhere. -/
def tidy (path : String) : String :=
  let text := root path.toList ++ "/".intercalate (steps path)
  if text == "" then "." else text

/-- The most bytes that a step of a path can have. -/
def maxStep : Nat := 255

/-- The most bytes that a path can have. -/
def maxPath : Nat := 4095

end Path

/-- The text with every end of a line written as a single character. -/
def plainLines : List Char → List Char
  | [] => []
  | '\r' :: '\n' :: rest => '\n' :: plainLines rest
  | '\r' :: rest => '\n' :: plainLines rest
  | c :: rest => c :: plainLines rest

/-- What is at a path. -/
inductive Place where
  | missing
  | directory
  | file (text : String)
  /-- The path, or a step of it, is too long to be looked up. -/
  | tooLong
  deriving DecidableEq, Repr

namespace Surroundings

/-- The files whose paths start at the same place, with the steps to them: in the working
directory, or at the top of everything. -/
def below (s : Surroundings) (top : Bool) : List (List String × String) :=
  (s.files.filter fun (name, _) => Path.isFromTop name == top).map fun (name, text) =>
    (Path.steps name, String.ofList (plainLines text.toList))

/-- What is at the end of steps, none of which leads up. -/
def here (s : Surroundings) (top : Bool) (steps : List String) : Place :=
  match (s.below top).lookup steps with
  | some text => .file text
  | none =>
    if steps.isEmpty || (s.below top).any (steps.isPrefixOf ·.1) then .directory else .missing

/-- What is at the end of further steps from a directory. The top is above itself. Above the
working directory nothing is known but that there are directories. -/
def walk (s : Surroundings) (top : Bool) (base : List String) : List String → Place
  | [] => s.here top base
  | step :: rest =>
    if step == ".." then
      if base.isEmpty && !top then (if rest.all (· == "..") then .directory else .missing)
      else walk s top base.dropLast rest
    else if Path.maxStep < step.utf8ByteSize then .tooLong
    else
      let next := base ++ [step]
      match s.here top next with
      | .directory => walk s top next rest
      | .file text => if rest.isEmpty then .file text else .missing
      | other => other

/-- The files in a directory, with their names. -/
def filesIn (s : Surroundings) (path : String) : List (String × String) :=
  (s.below (Path.isFromTop path)).filterMap fun (steps, text) =>
    match steps.getLast? with
    | some name => if steps.dropLast == Path.steps path then some (name, text) else none
    | none => none

/-- The text of the file that is given by a path as it is. -/
def given? (s : Surroundings) (path : String) : Option String :=
  s.files.findSome? fun (name, text) =>
    if Path.tidy name == Path.tidy path then some (String.ofList (plainLines text.toList)) else none

/-- What is at a path. -/
def at? (s : Surroundings) (path : String) : Place :=
  if Path.maxPath < (Path.tidy path).utf8ByteSize then .tooLong
  else match s.given? path with
    | some text => .file text
    | none => s.walk (Path.isFromTop path) [] (Path.steps path)

end Surroundings

end SearchQuery
