/-
**Log lines and where they go.**

A line has a level and a logger's name. It is written if its level reaches the level of the log and
that of the place it goes to; secrets in it are hidden.

* `levelOf`, `lineLevelOf`: the level that a value stands for, for the log and for a line;
* `isOwnLogger`: whether a logger belongs to the application;
* `LogLine.written`: a line as it is written;
* `LogSetup.accepts`: whether a line passes;
* `directLog`: how the log is directed to the terminal and to a file.
-/

import AssetFetch.Program
import AssetFetch.Redaction

namespace AssetFetch

open AssetFetch.Text

/-! ### Levels -/

/-- The level names and their numbers. -/
def levelNumbers : List (String × Int) :=
  [("CRITICAL", 50), ("FATAL", 50), ("ERROR", 40), ("WARN", 30), ("WARNING", 30), ("INFO", 20),
    ("DEBUG", 10), ("NOTSET", 0)]

/-- The level of a name in any case; an unknown name stands for information. -/
def levelOfName (name : String) : Int :=
  (levelNumbers.lookup (upper name)).getD 20

/-- The level that a value stands for. -/
def levelOf : Value → Except Failure Level
  | .text name => .ok (.number (levelOfName name.shown))
  | .int level => .ok (.number level)
  | .bool flag => .ok (.flag flag)
  | other => .error (.notALevel other)

/-- The level of a line that a value stands for; a name stands for none. -/
def lineLevelOf : Value → Except Failure Level
  | .int level => .ok (.number level)
  | .bool flag => .ok (.flag flag)
  | _ => .error .noLevelOfLine

/-- A level as a value. -/
def Level.toValue : Level → Value
  | number value => .int value
  | flag raised => .bool raised

/-- The name of a level in a line. -/
def levelName (level : Level) : String :=
  if level.value == 50 then "CRITICAL"
  else if level.value == 40 then "ERROR"
  else if level.value == 30 then "WARNING"
  else if level.value == 20 then "INFO"
  else if level.value == 10 then "DEBUG"
  else if level.value == 0 then "NOTSET"
  else "Level " ++ level.toValue.literal

/-! ### Lines -/

/-- The logger above all those of the application. -/
def mainLogger : String := "move_release_fetcher"

/-- Whether a logger belongs to the application. -/
def isOwnLogger (name : String) : Bool :=
  name == mainLogger || (mainLogger ++ ".").toList.isPrefixOf name.toList

/-- A line as it is written at a time. -/
def LogLine.written (record : LogLine) (time : String) : String :=
  Redaction.redact
    (time ++ " - " ++ record.logger ++ " - " ++ levelName record.level ++ " - " ++ record.message)

/-! ### Where lines go -/

/-- The level that counts where the log has none of its own. -/
def fallbackLevel : Int := 30

/-- The level of the log, and the levels of the terminal and of the file, as far as lines go
there. -/
structure LogSetup where
  level : Int
  console : Option Int
  file : Option (Int × Path)
  deriving DecidableEq, Repr, Inhabited

namespace LogSetup

/-- The log before it is set up. -/
def start : LogSetup := ⟨10, none, none⟩

/-- The level that a line has to reach. -/
def threshold (setup : LogSetup) : Int :=
  if setup.level == 0 then fallbackLevel else setup.level

/-- Whether a line passes on to the places it may go to. Only lines of a positive level do,
whatever the level of the log. -/
def accepts (setup : LogSetup) (record : LogLine) : Bool :=
  isOwnLogger record.logger && 0 < record.level.value && setup.threshold ≤ record.level.value

/-- The number of places that lines go to. -/
def places (setup : LogSetup) : Nat :=
  (if setup.console.isSome then 1 else 0) + (if setup.file.isSome then 1 else 0)

end LogSetup

/-- Directs the log to the terminal, if wished, and to a file, if given, whose directory is made if
it is missing. Answers the level. -/
def directLog (level : Value) (file : Option Path) (console : Bool) : Action Level := do
  let level ← .ofExcept (levelOf level)
  Action.ofProgram (perform (.setUpLog level.value console))
  if let some path := file then
    Files.ensureDirectory path.parent
    Action.attempt (perform (.openLog path level.value))
  return level

end AssetFetch
