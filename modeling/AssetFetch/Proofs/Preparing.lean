/-
**How a run sets out.**

* `only_settingsPath`, `only_logPath`: finding out where the files of the application are asks about
  directories and makes them, and what is found lies in directories that are there
  (`exists_settingsPath`, `exists_logPath`);
* `App.setOut`, `App.goOn`: a run loads the settings and opens the log, and then finds out what
  there is to do (`App.prepare_eq`);
* `App.SetOut`, `exists_setOut`: **what a run finds that has set out**: the settings that a new
  store would load, a settings file that still says so, and a log file, which is all that differs
  but for new directories.
-/

import AssetFetch.Proofs.Settings.Replacing
import AssetFetch.Proofs.Settings.Runs

namespace AssetFetch

open AppPaths FileTree World

section Setting

variable {environment : Environment} {world later : World} {path : Path}

/-! ### Where the files of the application are -/

namespace AppPaths

theorem only_made (path : Path) : (made path).Only IsDirectoryWork :=
  .bind (only_ensureDirectory path) fun _ => .pure _

section Places

variable (environment : Environment)

theorem only_applicationDirectory : (applicationDirectory environment).Only IsDirectoryWork :=
  .bind (.ofExcept _) fun _ => only_made _

theorem only_settingsPath : (settingsPath environment).Only IsDirectoryWork :=
  .bind (only_applicationDirectory environment) fun _ => .pure _

theorem only_downloadDirectory : (downloadDirectory environment).Only IsDirectoryWork :=
  .bind (only_applicationDirectory environment) fun _ => only_made _

theorem only_logPath : (logPath environment).Only IsDirectoryWork :=
  .bind (.bind (only_applicationDirectory environment) fun _ => only_made _) fun _ => .pure _

end Places

/-- The application's directory, as far as the environment has one. -/
def directoryOf (environment : Environment) : Except Failure Path :=
  (baseDirectory environment).map (·.child applicationName)

theorem applicationDirectory_of_directoryOf {directory : Path}
    (named : directoryOf environment = .ok directory) :
    applicationDirectory environment = made directory := by
  let sites : Sites := ⟨directory, environment.depths, [], [], []⟩
  have based : (baseDirectory environment).map (·.child applicationName)
      = .ok sites.directory := named
  exact applicationDirectory_eq based

theorem exists_applicationDirectory {directory : Path}
    (ok : world.attempt (applicationDirectory environment) = (.ok directory, later)) :
    directoryOf environment = .ok directory ∧ later.tree.status directory = .ok .directory := by
  obtain ⟨base, middle, based, rest⟩ := exists_of_attempt_bind ok
  obtain ⟨found, same⟩ := Prod.mk.inj ((attempt_ofExcept _ _).symm.trans based)
  subst same
  obtain ⟨rfl, ensured⟩ := ensured_of_made rest
  exact ⟨by rw [directoryOf, found]; rfl, status_of_ensured ensured⟩

/-- **The settings file is in a directory that is there.** -/
theorem exists_settingsPath
    (ok : world.attempt (settingsPath environment) = (.ok path, later)) :
    ∃ directory, directoryOf environment = .ok directory ∧ path = settingsIn directory
      ∧ later.tree.status directory = .ok .directory := by
  obtain ⟨directory, middle, found, returned⟩ := exists_of_attempt_bind ok
  cases returned
  obtain ⟨named, there⟩ := exists_applicationDirectory found
  exact ⟨directory, named, rfl, there⟩

/-- **The log file is in a directory that is there.** -/
theorem exists_logPath (ok : world.attempt (logPath environment) = (.ok path, later)) :
    ∃ directory, directoryOf environment = .ok directory ∧ path = logIn directory
      ∧ later.tree.status (logsIn directory) = .ok .directory := by
  obtain ⟨logs, middle, both, returned⟩ := exists_of_attempt_bind ok
  cases returned
  obtain ⟨directory, _, found, made⟩ := exists_of_attempt_bind both
  obtain ⟨rfl, ensured⟩ := ensured_of_made made
  exact ⟨directory, (exists_applicationDirectory found).1, rfl, status_of_ensured ensured⟩

end AppPaths

/-! ### The log -/

/-- The log is set up. -/
theorem attempt_directLog {level : Level} {value : Value} (known : levelOf value = .ok level)
    (path : Path) (world : World) :
    world.attempt (discard (directLog value (some path) true))
      = match (world.setUpLog level.value true).attempt (Files.ensureDirectory path.parent) with
        | (.error failure, later) => (.error failure, later)
        | (.ok _, later) => later.openLog path level.value := by
  have steps : discard (directLog value (some path) true) = (do
      Action.ofProgram (perform (.setUpLog level.value true))
      Files.ensureDirectory path.parent
      Action.attempt (perform (.openLog path level.value)) : Action Unit) := by
    have fine : (Action.ofExcept (levelOf value) : Action Level) = pure level := by
      rw [known]
      rfl
    simp only [directLog, fine, discard, map_const, Function.comp_apply, Function.const_apply,
      map_eq_pure_bind, bind_assoc, pure_bind]
    exact bind_congr fun _ => bind_congr fun _ => bind_pure _
  have setUp : world.attempt (Action.ofProgram (perform (.setUpLog level.value true)))
      = (.ok (), world.setUpLog level.value true) := attempt_ofProgram ..
  rw [steps]
  refine (attempt_bind_of_ok setUp).trans ?_
  rw [attempt_bind]
  cases (world.setUpLog level.value true).attempt (Files.ensureDirectory path.parent) with
  | mk result later => cases result <;> rfl

/-- What differs where a log has been opened: there is a log file, which is a file, and beside it
only directories are new. -/
structure LogOpened (before after : World) (path : Path) (place : Location) : Prop where
  located : after.tree.locate path = .ok (.named place)
  logFile : after.logFile = some place
  isFile : ∃ content mode, after.tree.get? place = some (.file content mode)
  grown : GrownBut (· = place) before.tree after.tree
  faults : after.faults = before.faults

theorem exists_opened {level : Int} (ok : world.openLog path level = (.ok (), later)) :
    ∃ place, LogOpened world later path place := by
  unfold openLog at ok
  cases opened : world.tree.openForWriting path true with
  | error fault =>
    rw [opened] at ok
    cases ok
  | ok reached =>
    obtain ⟨place, tree⟩ := reached
    rw [opened] at ok
    cases ok
    obtain ⟨located, free, content, mode, rfl⟩ := exists_of_openForWriting opened
    refine ⟨place, locate_of_directories (directories_put free _) located, rfl,
      ⟨content, mode, get?_put_self (not_given_of_ne_directory free)⟩, ?_, rfl⟩
    refine .of_sameBut (sameBut_put located free _) fun other there => ?_
    rw [located] at there
    exact (Place.named.inj (Except.ok.inj there)).symm

/-- **A log that has been set up has been opened.** -/
theorem exists_of_directLog {value : Value}
    (directed : world.attempt (discard (directLog value (some path) true)) = (.ok (), later)) :
    ∃ place, LogOpened world later path place := by
  cases known : levelOf value with
  | error failure =>
    simp only [directLog, known] at directed
    cases directed
  | ok level =>
    rw [attempt_directLog known] at directed
    obtain ⟨tree, treeIs, grown⟩ :=
      grownTo_ensureDirectory path.parent (world.setUpLog level.value true)
    split at directed
    · cases directed
    · rename_i ensured
      rw [ensured] at treeIs
      obtain rfl := treeIs
      obtain ⟨place, opened⟩ := exists_opened directed
      exact ⟨place, { opened with grown := (GrownBut.of_grown grown).trans opened.grown }⟩

/-! ### Setting out -/

/-- Loads the settings and opens the log. -/
def App.setOut (arguments : Arguments) (environment : Environment) : Action (Path × Settings) := do
  let path ← settingsPath environment
  let settings ← SettingsStore.readFile environment.depths path
  let level := if arguments.verbose then .int Severity.debug.number else settings.value .logLevel
  let log ← logPath environment
  discard (directLog level (some log) true)
  return (path, settings)

/-- Finds out what there is to do. -/
def App.goOn (arguments : Arguments) (environment : Environment) (found : Path × Settings) :
    Action Task :=
  if isAboutSettings arguments then
    settingsTask arguments ⟨environment.depths, found.1, some found.2⟩
  else if arguments.tokenUpdate then return .renewToken
  else fetchTask arguments environment found.2

/-- **A run sets out, and goes on.** -/
theorem App.prepare_eq (arguments : Arguments) (environment : Environment) :
    prepare arguments environment
      = setOut arguments environment >>= goOn arguments environment := by
  unfold setOut prepare SettingsStore.load
  simp only [bind_assoc, pure_bind]
  refine bind_congr fun path => ?_
  exact SettingsStore.bind_remembering (.ofPath environment.depths path) _ id
    fun settings store => do
      let log ← logPath environment
      discard (directLog
        (if arguments.verbose then .int Severity.debug.number else settings.value .logLevel)
        (some log) true)
      if isAboutSettings arguments then settingsTask arguments store
      else if arguments.tokenUpdate then return .renewToken
      else fetchTask arguments environment settings

/-- A new store loads what the settings file says. -/
theorem App.loadedSettings_eq (environment : Environment) :
    loadedSettings environment
      = settingsPath environment >>= SettingsStore.readFile environment.depths := by
  unfold loadedSettings SettingsStore.load
  refine bind_congr fun path => ?_
  have step := SettingsStore.bind_remembering (.ofPath environment.depths path)
    (SettingsStore.readFile environment.depths path) id
    fun settings _ => (pure settings : Action Settings)
  simp only [bind_pure] at step
  exact step

/-- **What a run finds that has set out**: the settings that a new store would have loaded, a
settings file in a directory that is there, which still says so, and a log file, which is all that
differs but for new directories. -/
structure App.SetOut (environment : Environment) (world later : World) (path : Path)
    (settings : Settings) : Prop where
  seat : ∃ directory, directoryOf environment = .ok directory ∧ path = settingsIn directory
    ∧ later.tree.status directory = .ok .directory
  loaded : (world.attempt (loadedSettings environment)).1 = .ok settings
  said : SettingsStore.said environment.depths later.tree.privileged path (later.tree.status path)
    = .ok settings
  faults : later.faults = world.faults
  log : ∃ directory place content mode, directoryOf environment = .ok directory
    ∧ later.tree.locate (logIn directory) = .ok (.named place) ∧ later.logFile = some place
    ∧ later.tree.get? place = some (.file content mode)
    ∧ GrownBut (· = place) world.tree later.tree

namespace App.SetOut

variable {settings : Settings} (setOut : SetOut environment world later path settings)

include setOut

/-- The directory of the settings file is there, and the log is no file of its name. -/
theorem seated : SettingsStore.Seated path later := by
  obtain ⟨directory, _, rfl, there⟩ := setOut.seat
  refine ⟨(parent_settingsIn directory).symm ▸ there, ?_⟩
  intro place opened
  obtain ⟨other, log, _, _, _, located, logFile, _⟩ := setOut.log
  rw [logFile] at opened
  obtain rfl : log = place := Option.some.inj opened
  rw [getLast?_of_placed (locate_eq_named_iff.mp located).1, fileName_logIn,
    fileName_settingsIn]
  decide +kernel

/-- A new store finds the settings file where it was. -/
theorem loads_again {last : World}
    (kept : ∀ place, later.tree.get? place = some .directory →
      last.tree.get? place = some .directory) :
    (last.attempt (loadedSettings environment)).1
      = SettingsStore.said environment.depths last.tree.privileged path
          (last.tree.status path) := by
  obtain ⟨directory, named, rfl, there⟩ := setOut.seat
  have top := attempt_made_of_there (status_of_directories kept there)
  have found : last.attempt (settingsPath environment) = (.ok (settingsIn directory), last) := by
    rw [settingsPath, applicationDirectory_of_directoryOf named, attempt_bind_of_ok top]
    rfl
  rw [loadedSettings_eq, attempt_bind_of_ok found, SettingsStore.attempt_readFile]

end App.SetOut

/-- **A run that sets out finds all that.** -/
theorem App.exists_setOut {arguments : Arguments} {settings : Settings}
    (ok : world.attempt (setOut arguments environment) = (.ok (path, settings), later)) :
    SetOut environment world later path settings := by
  obtain ⟨file, first, pathed, afterPath⟩ := exists_of_attempt_bind ok
  obtain ⟨found, second, read, afterRead⟩ := exists_of_attempt_bind afterPath
  rw [SettingsStore.attempt_readFile] at read
  obtain ⟨said, rfl⟩ := Prod.mk.inj read
  obtain ⟨log, ready, logged, afterLog⟩ := exists_of_attempt_bind afterRead
  obtain ⟨_, opened, directed, returned⟩ := exists_of_attempt_bind afterLog
  cases returned
  obtain ⟨directory, named, rfl, there⟩ := exists_settingsPath pathed
  obtain ⟨sameDirectory, namedToo, rfl, _⟩ := exists_logPath logged
  obtain rfl : directory = sameDirectory := Except.ok.inj (named.symm.trans namedToo)
  -- on the way to the log file only directories are made
  obtain ⟨firstTree, firstIs, grownFirst⟩ : world.GrownTo first := by
    have grown := grownTo_of_only (only_settingsPath environment) world
    rwa [pathed] at grown
  obtain ⟨readyTree, readyIs, grownReady⟩ : first.GrownTo ready := by
    have grown := grownTo_of_only (only_logPath environment) first
    rwa [logged] at grown
  subst firstIs readyIs
  obtain ⟨place, located, logFile, ⟨content, mode, file⟩, grownBut, faults⟩ :=
    exists_of_directLog directed
  have top : (settingsIn directory).parent = directory := parent_settingsIn directory
  have fromFirst : GrownBut (· = place) firstTree later.tree :=
    (GrownBut.of_grown grownReady).trans grownBut
  refine ⟨⟨directory, named, rfl, status_of_directories fromFirst.directories there⟩, ?_, ?_,
    faults, directory, place, content, mode, named, located, logFile, file,
    (GrownBut.of_grown grownFirst).trans fromFirst⟩
  · rw [loadedSettings_eq, attempt_bind_of_ok pathed, SettingsStore.attempt_readFile]
    exact said
  · have same : SaysSame (settingsIn directory) firstTree later.tree := by
      refine saysSame_of_grownBut (top.symm ▸ there) fromFirst fun location placed here => ?_
      have names := getLast?_of_placed (locate_eq_named_iff.mp located).1
      rw [← here, getLast?_of_placed placed, fileName_settingsIn, fileName_logIn]
        at names
      revert names
      decide +kernel
    have user : later.tree.privileged = firstTree.privileged :=
      (sameUser_of_attempt directed).trans (sameUser_of_attempt logged)
    rw [user, same.said]
    exact said

end Setting

end AssetFetch
