-- Which levels count, from settings. A level is given by its name in letters of any size;
-- an unknown name counts as info.
import SearchQuery.Log.Line
import SearchQuery.Settings
import SearchQuery.Text.Case

namespace SearchQuery.Log

/-- The weights of the names. -/
def weights : List (String × Nat) := [
  ("NOTSET", 0), ("DEBUG", 10), ("INFO", 20), ("WARN", 30), ("WARNING", 30), ("ERROR", 40),
  ("CRITICAL", 50), ("FATAL", 50)]

/-- The layout of a line that goes by a name that looks like that of a level. -/
def basicLayout : String := "%(levelname)s:%(name)s:%(message)s"

/-- The layouts that go by a name that looks like that of a level, with the class for each. -/
def layouts : String :=
  "\x7b'%': (<class 'logging.PercentStyle'>, '" ++ basicLayout ++ "'), " ++
  "'\x7b': (<class 'logging.StrFormatStyle'>, " ++
  "'\x7blevelname\x7d:\x7bname\x7d:\x7bmessage\x7d'), " ++
  "'$': (<class 'logging.StringTemplateStyle'>, " ++
  "'$\x7blevelname\x7d:$\x7bname\x7d:$\x7bmessage\x7d')\x7d"

/-- The least weight that counts. Two names stand for something that is no level. -/
def thresholdOf (name : String) : Except Fault Nat :=
  let name := Text.upper name
  if name == "BASIC_FORMAT" then .error (.unknownLevel (Text.quoted basicLayout))
  else if name == "_STYLES" then .error (.notALevel layouts)
  else .ok ((weights.lookup name).getD 20)

/-- How the log is kept under settings. -/
def Setup.ofSettings (s : LogSettings) : Except Fault Setup :=
  (thresholdOf s.level).map fun threshold => { threshold, format := .ofName s.format }

end SearchQuery.Log
