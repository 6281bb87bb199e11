/-
**Where the application keeps its files.**

Each family of systems has its own place for an application's data, which variables of the
environment may move.

* `Environment`: the system and the variables;
* `applicationDirectory`: the directory, made if it is missing;
* `settingsPath`, `downloadDirectory`, `logDirectory`, `logPath`: what lies in it.
-/

import AssetFetch.Program
import AssetFetch.Release

namespace AssetFetch

/-- The families of systems. -/
inductive Platform where
  | windows
  | mac
  | other
  deriving DecidableEq, Repr, Inhabited

/-- The system, the variables that matter, and how deep data may be nested. -/
structure Environment where
  platform : Platform
  home : String
  configHome : Option String
  appData : Option String
  depths : Json.Depths
  deriving DecidableEq, Repr, Inhabited

namespace AppPaths

/-- The name of the application's directory. -/
def applicationName : String := "MoveReleaseFetcher"

/-- The user's home directory; a tilde is no directory. -/
def homeDirectory (environment : Environment) : Except Failure Path :=
  let text := withoutFinalSlashes environment.home
  if text.isEmpty then .ok (.ofText "/")
  else if text.toList.head? == some '~' then .error .noHome
  else .ok (.ofText text)

/-- The directory under which applications keep their data. -/
def baseDirectory (environment : Environment) : Except Failure Path := do
  let home ← homeDirectory environment
  return match environment.platform with
  | .windows =>
    (environment.appData.map fun text : String => Path.ofText text).getD
      ((home.child "AppData").child "Roaming")
  | .mac => (home.child "Library").child "Application Support"
  | .other =>
    (environment.configHome.map fun text : String => Path.ofText text).getD (home.child ".config")

/-- A directory, made if it is missing. -/
def made (path : Path) : Action Path := do
  Files.ensureDirectory path
  return path

/-- The application's directory. -/
def applicationDirectory (environment : Environment) : Action Path := do
  let base ← .ofExcept (baseDirectory environment)
  made (base.child applicationName)

/-- The settings file. -/
def settingsPath (environment : Environment) : Action Path := do
  let directory ← applicationDirectory environment
  return directory.child "settings.json"

/-- The directory of downloaded files. -/
def downloadDirectory (environment : Environment) : Action Path := do
  let directory ← applicationDirectory environment
  made (directory.child "bin")

/-- The directory of log files. -/
def logDirectory (environment : Environment) : Action Path := do
  let directory ← applicationDirectory environment
  made (directory.child "logs")

/-- The log file. -/
def logPath (environment : Environment) : Action Path := do
  let directory ← logDirectory environment
  return directory.child "fetcher.log"

end AppPaths

end AssetFetch
