-- The program: hands the surroundings and the command line over, and prints what comes back.
import SearchQuery.CommandLine.Run
import SearchQuery.Log.Clock
import SearchQuery.Text.Utf8
import Std.Time.DateTime.Timestamp

namespace SearchQuery.Program

/-- The text of a file, none if it cannot be read. -/
def fileText? (path : String) : IO (Option String) := do
  try
    return some (← IO.FS.readFile path)
  catch _ => return none

/-- Whether there is a directory at a path. -/
def isDirectory (path : String) : IO Bool := do
  try
    let _ ← IO.FS.realPath (path ++ "/.")
    return true
  catch _ => return false

/-- What is at a path, as files: a directory is shown by a file inside it. -/
def filesAt (path : String) : IO (List (String × String)) := do
  if let some text ← fileText? path then return [(path, text)]
  if ← isDirectory path then return [(path ++ "/.keep", "")]
  return []

/-- The variables of the process. -/
def environment : IO (List (String × String)) := do
  let some text ← fileText? "/proc/self/environ" | return []
  return (Text.splitAll '\x00' text.toList).filterMap fun entry =>
    let name := entry.takeWhile (· != '=')
    if name.isEmpty then none
    else some (String.ofList name, String.ofList (entry.drop (name.length + 1)))

/-- The files that a run may look at: the file of variables, the file that the command line
names, and the files of variables that this one names. -/
def filesFor (line : List String) : IO (List (String × String)) := do
  let named := match CommandLine.read line with
    | .ok order => (CommandLine.filled? order.config).toList
    | .error _ => []
  let found := (← (".env" :: named).mapM filesAt).flatten
  let further := named.flatMap fun path =>
    ((found.lookup path).map (Settings.filesNamedBy path)).getD []
  return found ++ (← further.mapM filesAt).flatten

/-- The outside of a run. There is no transport here, so every request fails. -/
def outside : World :=
  let refused : Reply := { outcome := .failed (.transport "no transport available") }
  { replies := List.replicate 16 refused, hasOpenSearch := false }

/-- The status of a run for the caller. -/
def statusOf : CommandLine.Ending → Nat
  | .done code => code
  | .exited status => status
  | .failed _ => 1

/-- The text with halves of pairs by their numbers. -/
def spelt (text : String) : String :=
  String.ofList (text.toList.flatMap fun c =>
    if Text.isHalfChar c then Text.numbered (Text.code c) else [c])

end SearchQuery.Program

open SearchQuery SearchQuery.Program in
def main (line : List String) : IO UInt32 := do
  let around : Surroundings :=
    { environment := ← environment, files := ← filesFor line, refusal? := Text.utf8Refusal? }
  let now ← Std.Time.Timestamp.now
  let time := Log.timeText (now.toNanosecondsSinceUnixEpoch.val.toNat / 1000)
  let (report, _) := (CommandLine.run around time line).run outside
  for text in report.err do IO.eprintln (spelt text)
  if let .failed fault := report.ending then IO.eprintln (spelt fault.message)
  IO.print report.out
  return UInt32.ofNat (statusOf report.ending)
