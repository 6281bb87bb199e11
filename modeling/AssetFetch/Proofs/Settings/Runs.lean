/-
**Runs about settings, one after the other.**

* `Sites.Holds.reset`, `Sites.Holds.update`: what the store does in a world whose settings file
  stands for some settings;
* `Sites.Begins`: a world in which a run finds its directories and its settings;
* `Sites.Begins.prepare`, `Sites.Begins.run`: **one run** does to the settings what its command
  says, and has nothing left to do;
* `App.runs`: runs of which each starts with the files that the one before left;
* `App.settings_follow_commands`: **all runs end well, and a new store loads the defaults with the
  assignments that count.**
-/

import AssetFetch.Proofs.Printing
import AssetFetch.Proofs.Settings.Command
import AssetFetch.Proofs.Settings.Store

namespace AssetFetch

open AppPaths World

/-! ### The store -/

/-- The store of the settings at their place, with what it knows. -/
abbrev Sites.store (sites : Sites) (known : Option Settings) : SettingsStore :=
  ⟨sites.depths, settingsIn sites.directory, known⟩

section Stored

variable {α : Type} {world later : World} {store : SettingsStore}

/-- An action that succeeds tells the store what it gives. -/
theorem SettingsStore.run_remembering {action : Action α} {value : α}
    (done : world.attempt action = (.ok value, later)) (settings : α → Settings) :
    world.run (store.remembering action settings)
      = ((.ok value, { store with known := some (settings value) }), later) := by
  have outcome : world.run action.outcome = (.ok value, later) := done
  rw [remembering, run_bind, outcome]
  rfl

/-- The settings file has a plain path where its directory does. -/
theorem AppPaths.isPlain_settingsIn {directory : Path} (plain : directory.IsPlain) :
    (settingsIn directory).IsPlain :=
  plain.child (Text.LooseText.isPlain_ofString _)

namespace Sites.Holds

variable {sites : Sites} {settings changed : Settings} {known : Option Settings}

/-- A new store loads what the file says. -/
theorem load (holds : sites.Holds settings world) :
    world.run (SettingsStore.load (sites.store known))
      = ((.ok settings, sites.store (some settings)), world) :=
  SettingsStore.run_remembering holds.readFile id

/-- Going back to the defaults. -/
theorem reset (holds : sites.Holds settings world) :
    ∃ later, world.run (SettingsStore.reset (sites.store known))
        = ((.ok .defaults, sites.store (some .defaults)), later)
      ∧ sites.Holds .defaults later := by
  obtain ⟨later, removed, stands⟩ := holds.removeFile
  exact ⟨later, SettingsStore.run_remembering removed id, stands⟩

/-- **Changing fields** makes the file say the settings with the assignments made one after the
other. -/
theorem update (holds : sites.Holds settings world) {assignments : List (Field × Value)}
    (assigned : settings.assigned assignments = changed)
    (storable : changed.Storable sites.depths) :
    ∃ later store, world.run
        (SettingsStore.update (sites.store (some settings)) (AssetFetch.changed assignments))
          = ((.ok changed, store), later)
      ∧ sites.Holds changed later := by
  obtain ⟨later, replaced, stands⟩ := holds.replaceFile storable
  have saved : world.run
        (SettingsStore.save (sites.store (some settings)) changed)
      = ((.ok (), sites.store (some changed)), later) :=
    SettingsStore.run_remembering replaced fun _ => changed
  refine ⟨later, sites.store (some changed), ?_, stands⟩
  have named : SettingsStore.nameFault? (AssetFetch.changed assignments) = none :=
    (namesFields_changed assignments).nameFault?
  rw [SettingsStore.update, named]
  show world.run (SettingsStore.save _ (settings.overlay _) >>= _) = _
  rw [overlay_changed, assigned, run_bind, saved]
  rfl

end Sites.Holds

end Stored

/-! ### One run -/

section Run

open App

variable {sites : Sites} {settings : Settings} {world : World} {environment : Environment}

/-- Makes the assignments of a command line, if there are any. -/
def App.assign (arguments : Arguments) (store : SettingsStore) : Action Unit := do
  let assignments := arguments.assignments.getD []
  if !assignments.isEmpty then
    let changes ← Action.ofExcept (changesOf assignments)
    let (outcome, _) ← Action.ofProgram (store.update changes)
    discard (Action.ofExcept outcome)

/-- Going back to the defaults comes first, if it is asked for. -/
theorem App.changeSettings_eq (arguments : Arguments) (store : SettingsStore) :
    changeSettings arguments store
      = if arguments.resetSettings then do
          let (outcome, store) ← Action.ofProgram store.reset
          discard (Action.ofExcept outcome)
          assign arguments store
        else assign arguments store := by
  unfold changeSettings
  split
  · rfl
  · rfl

namespace Sites.Holds

/-- **The assignments are made one after the other.** -/
theorem assign (holds : sites.Holds settings world) {arguments : Arguments}
    {assignments : List (Field × Value)}
    (given : arguments.assignments.getD [] = assignments.map some)
    (storable : (settings.assigned assignments).Storable sites.depths) :
    ∃ later, world.attempt (App.assign arguments (sites.store (some settings))) = (.ok (), later)
      ∧ sites.Holds (settings.assigned assignments) later := by
  unfold App.assign
  rw [given]
  by_cases none : assignments = []
  · subst none
    exact ⟨world, rfl, holds⟩
  · obtain ⟨later, store, ran, changed⟩ := holds.update rfl storable
    refine ⟨later, ?_, changed⟩
    have some_given : (!(assignments.map some).isEmpty) = true := by simpa using none
    simp only [some_given, if_true, changesOf_eq]
    rw [attempt_bind_of_ok (attempt_ofExcept ..),
      attempt_bind_of_ok (attempt_ofProgram_of_run ran)]
    rfl

/-- **What a command does to the settings**, once the arguments have been read. -/
theorem changeSettings (holds : sites.Holds settings world) (command : SettingsCommand)
    (kept : settings.Kept) {arguments : Arguments}
    (resets : arguments.resetSettings = command.resets)
    (given : arguments.assignments.getD [] = command.assignments.map some) :
    ∃ later, world.attempt (App.changeSettings arguments (sites.store (some settings)))
        = (.ok (), later)
      ∧ sites.Holds (command.apply settings) later := by
  have storable : (command.apply settings).Storable sites.depths :=
    (command.kept_apply kept).storable sites.depths
  rw [App.changeSettings_eq, resets]
  unfold SettingsCommand.apply at storable ⊢
  generalize command.resets = goesBack at storable ⊢
  cases goesBack with
  | false => exact holds.assign given storable
  | true =>
    obtain ⟨begun, ran, stands⟩ := holds.reset
    obtain ⟨later, assigned, changed⟩ := stands.assign given storable
    refine ⟨later, ?_, changed⟩
    rw [if_pos rfl, attempt_bind_of_ok (attempt_ofProgram_of_run ran), ← assigned]
    rfl

/-- The task of a run about settings is finished. -/
theorem settingsTask (holds : sites.Holds settings world) (plain : sites.directory.IsPlain)
    (command : SettingsCommand) (kept : settings.Kept) {arguments : Arguments}
    (resets : arguments.resetSettings = command.resets)
    (given : arguments.assignments.getD [] = command.assignments.map some) :
    ∃ later, world.attempt (App.settingsTask arguments (sites.store (some settings)))
        = (.ok (.finished 0), later)
      ∧ sites.Holds (command.apply settings) later := by
  obtain ⟨later, changed, stands⟩ := holds.changeSettings command kept resets given
  let last := { later with output := later.output ++ ((settingsIn sites.directory).text ++ "\n") }
  have printed : later.attempt (printLine (settingsIn sites.directory).looseText)
      = (.ok (), last) :=
    attempt_printLine_of_plain (isPlain_settingsIn plain).looseText later
  refine ⟨last, ?_, { stands with }⟩
  have done : world.attempt (do
        App.changeSettings arguments (sites.store (some settings))
        printLine (settingsIn sites.directory).looseText
        return .finished 0 : Action Task) = (.ok (.finished 0), last) := by
    rw [attempt_bind_of_ok changed, attempt_bind_of_ok printed]
    rfl
  unfold App.settingsTask
  rw [attempt_orElse, done]

/-- The log is directed to the terminal and to its file. -/
theorem directLog (holds : sites.Holds settings world) (valid : settings.Valid) :
    ∃ level later, world.attempt (AssetFetch.directLog (settings.value .logLevel)
          (some (logIn sites.directory)) true) = (.ok level, later)
      ∧ sites.Holds settings later := by
  obtain ⟨name, _, named⟩ := valid .logLevel
  let level : Level := .number (levelOfName name)
  have known : levelOf (settings.value .logLevel) = .ok level := by
    rw [named, levelOf, Text.LooseText.shown_ofString]
  obtain ⟨later, opened, stands⟩ := (holds.setUpLog level.value true).openLog level.value
  have setUp : world.attempt (Action.ofProgram (perform (.setUpLog level.value true)))
      = (.ok (), world.setUpLog level.value true) := attempt_ofProgram ..
  have there : (world.setUpLog level.value true).attempt
        (Files.ensureDirectory (logIn sites.directory).parent)
      = (.ok (), world.setUpLog level.value true) := by
    rw [parent_logIn]
    exact attempt_ensureDirectory_of_there holds.ready.logs
  have log : (world.setUpLog level.value true).attempt
        (Action.attempt (perform (.openLog (logIn sites.directory) level.value)))
      = (.ok (), later) := opened
  have file : (world.setUpLog level.value true).attempt (do
        Files.ensureDirectory (logIn sites.directory).parent
        Action.attempt (perform (.openLog (logIn sites.directory) level.value))
        return level : Action Level) = (.ok level, later) := by
    rw [attempt_bind_of_ok there]
    exact attempt_bind_of_ok log
  refine ⟨level, later, ?_, stands⟩
  unfold AssetFetch.directLog
  rw [known, attempt_bind_of_ok (attempt_ofExcept ..)]
  exact (attempt_bind_of_ok setUp).trans file

end Sites.Holds

/-- **A world in which a run begins**: the settings file is looked for and read, and the directory
of the log is there or made, behind which the settings file still stands for the settings. -/
structure Sites.Begins (sites : Sites) (environment : Environment) (settings : Settings)
    (world first ready : World) : Prop where
  depths : environment.depths = sites.depths
  plain : sites.directory.IsPlain
  path : world.attempt (settingsPath environment) = (.ok (settingsIn sites.directory), first)
  loaded : first.run (SettingsStore.load ⟨sites.depths, settingsIn sites.directory, none⟩)
    = ((.ok settings, ⟨sites.depths, settingsIn sites.directory, some settings⟩), first)
  log : first.attempt (logPath environment) = (.ok (logIn sites.directory), ready)
  holds : sites.Holds settings ready

namespace Sites.Begins

variable {first ready : World}

/-- **One run does what its command says**, and has nothing left to do. -/
theorem prepare (begins : sites.Begins environment settings world first ready)
    (command : SettingsCommand) (kept : settings.Kept) {arguments : Arguments}
    (resets : arguments.resetSettings = command.resets)
    (given : arguments.assignments.getD [] = command.assignments.map some)
    (usual : arguments.verbose = false) :
    ∃ later, world.attempt (App.prepare arguments environment) = (.ok (.finished 0), later)
      ∧ sites.Holds (command.apply settings) later := by
  obtain ⟨level, logged, directed, holds⟩ := begins.holds.directLog kept.valid
  obtain ⟨later, finished, changed⟩ := holds.settingsTask begins.plain command kept resets given
  have about : isAboutSettings arguments = true :=
    CommandLine.isAboutSettings_of_command command resets given
  have dropped : ready.attempt (discard (AssetFetch.directLog (settings.value .logLevel)
      (some (logIn sites.directory)) true)) = (.ok (), logged) := attempt_bind_of_ok directed
  refine ⟨later, ?_, changed⟩
  unfold App.prepare
  rw [attempt_bind_of_ok begins.path, SettingsStore.ofPath, begins.depths,
    attempt_bind_of_ok (attempt_ofProgram_of_run begins.loaded)]
  simp only [usual, Bool.false_eq_true, if_false, about, if_true]
  rw [attempt_bind_of_ok (attempt_ofExcept ..), attempt_bind_of_ok begins.log,
    attempt_bind_of_ok dropped, finished]

/-- **A whole run ends well.** -/
theorem run (begins : sites.Begins environment settings world first ready)
    (command : SettingsCommand) (kept : settings.Kept) (dialog : Dialog) :
    ∃ later, App.run command.words environment dialog world = (.exit 0, dialog, later)
      ∧ sites.Holds (command.apply settings) later := by
  obtain ⟨arguments, parsed, resets, given, usual⟩ := CommandLine.parseArguments_words command
  obtain ⟨later, prepared, changed⟩ := begins.prepare command kept resets given usual
  refine ⟨later, ?_, changed⟩
  simp only [run_of_ok parsed, runWith_eq, prepared, perform_eq]

end Sites.Begins

/-! ### The first run and those after it -/

/-- No settings file is there yet, and nothing keeps the application from making its directories and
files. -/
structure Sites.Fresh (sites : Sites) (environment : Environment) (world : World) : Prop where
  depths : environment.depths = sites.depths
  directory : (baseDirectory environment).map (·.child applicationName) = .ok sites.directory
  faultless : world.faults = .none
  unlogged : world.logFile = none
  made : ∃ ready, world.attempt (logPath environment) = (.ok (logIn sites.directory), ready)
    ∧ sites.Ready ready.tree ∧ ready.tree.get? sites.settings = none

theorem applicationDirectory_eq
    (directory : (baseDirectory environment).map (·.child applicationName) = .ok sites.directory) :
    applicationDirectory environment = made sites.directory := by
  cases base : baseDirectory environment with
  | error failure =>
    rw [base] at directory
    cases directory
  | ok path =>
    rw [base] at directory
    have same : path.child applicationName = sites.directory := Except.ok.inj directory
    unfold applicationDirectory
    rw [base, ← same]
    rfl

/-- What is made is the directory of the path. -/
theorem ensured_of_made {path found : Path} {later : World}
    (ok : world.attempt (made path) = (.ok found, later)) :
    found = path ∧ world.attempt (Files.ensureDirectory path) = (.ok (), later) := by
  obtain ⟨_, middle, ensured, returned⟩ := exists_of_attempt_bind ok
  cases returned
  exact ⟨rfl, ensured⟩

theorem attempt_made {path : Path} {later : World}
    (ensured : world.attempt (Files.ensureDirectory path) = (.ok (), later)) :
    world.attempt (made path) = (.ok path, later) :=
  attempt_bind_of_ok ensured

theorem attempt_made_of_there {path : Path} (there : world.tree.status path = .ok .directory) :
    world.attempt (made path) = (.ok path, world) :=
  attempt_made (attempt_ensureDirectory_of_there there)

/-- **Where the files of an earlier run are, another can begin.** -/
theorem Sites.Holds.begins (holds : sites.Holds settings world)
    (depths : environment.depths = sites.depths)
    (directory : (baseDirectory environment).map (·.child applicationName) = .ok sites.directory) :
    sites.Begins environment settings world world world where
  depths := depths
  plain := isPlain_directory directory
  path := by
    have top := attempt_made_of_there holds.ready.top
    rw [settingsPath, applicationDirectory_eq directory, attempt_bind_of_ok top]
    rfl
  loaded := holds.load
  log := by
    have top := attempt_made_of_there holds.ready.top
    have logs : world.attempt (made (logsIn sites.directory))
        = (.ok (logsIn sites.directory), world) := attempt_made_of_there holds.ready.logs
    have logDirectory : world.attempt (logDirectory environment)
        = (.ok (logsIn sites.directory), world) := by
      rw [AppPaths.logDirectory, applicationDirectory_eq directory, attempt_bind_of_ok top]
      exact logs
    rw [logPath, attempt_bind_of_ok logDirectory]
    rfl
  holds := holds

/-- What is made on the way to the log file: the application's directory, then that of the log. -/
theorem exists_ensured {log : Path} {ready : World}
    (directory : (baseDirectory environment).map (·.child applicationName) = .ok sites.directory)
    (ok : world.attempt (logPath environment) = (.ok log, ready)) :
    ∃ first, world.attempt (Files.ensureDirectory sites.directory) = (.ok (), first)
      ∧ first.attempt (Files.ensureDirectory (logsIn sites.directory)) = (.ok (), ready) := by
  unfold logPath logDirectory at ok
  rw [applicationDirectory_eq directory] at ok
  obtain ⟨logs, last, both, returned⟩ := exists_of_attempt_bind ok
  cases returned
  obtain ⟨top, first, madeTop, madeLogs⟩ := exists_of_attempt_bind both
  obtain ⟨rfl, ensured⟩ := ensured_of_made madeTop
  exact ⟨first, ensured, (ensured_of_made madeLogs).2⟩

/-- Before the directory of the log is made, the settings file is missing as well. -/
theorem Sites.Ready.missing_before {before tree : FileTree} (ready : sites.Ready tree)
    (absent : tree.get? sites.settings = none) (grown : before.Grown tree)
    (there : before.status sites.directory = .ok .directory) :
    before.status (settingsIn sites.directory) = .error .notFound := by
  obtain ⟨names, _, _, encoded, _⟩ :=
    FileTree.placeOf_eq_named_iff.mp (FileTree.locate_eq_named_iff.mp ready.settings).1
  have last : (settingsIn sites.directory).names.getLast?
      = some (Text.LooseText.ofString "settings.json") := by
    simp [settingsIn_eq]
  obtain ⟨above, placed, _⟩ := FileTree.placeOf_in there (parent_settingsIn _) last
    (by rw [Text.LooseText.fileName_ofString]; decide +kernel) encoded
  rw [Text.LooseText.fileName_ofString] at placed
  have located : before.locate (settingsIn sites.directory)
      = .ok (.named (above ++ (["settings.json"] : Location))) := by
    refine FileTree.locate_eq_named_iff.mpr ⟨placed, ?_⟩
    rw [FileTree.endsTooLong_append]
    decide +kernel
  have same := FileTree.locate_of_directories grown.directories located
  rw [ready.settings] at same
  have place : sites.settings = above ++ (["settings.json"] : Location) :=
    FileTree.Place.named.inj (Except.ok.inj same)
  simp only [FileTree.status, located, grown.absent (place ▸ absent)]

/-- **In a fresh world the first run can begin**, with the defaults. -/
theorem Sites.Fresh.begins (fresh : sites.Fresh environment world) :
    ∃ first ready, sites.Begins environment .defaults world first ready := by
  obtain ⟨ready, log, seated, absent⟩ := fresh.made
  obtain ⟨first, top, logs⟩ := exists_ensured fresh.directory log
  have there : first.tree.status sites.directory = .ok .directory := status_of_ensured top
  obtain ⟨firstTree, firstIs, _⟩ : world.GrownTo first := by
    have grown := grownTo_ensureDirectory sites.directory world
    rwa [top] at grown
  obtain ⟨readyTree, readyIs, grown⟩ : first.GrownTo ready := by
    have grown := grownTo_ensureDirectory (logsIn sites.directory) first
    rwa [logs] at grown
  rw [readyIs] at seated absent
  have missing := seated.missing_before absent grown there
  have read : first.attempt (SettingsStore.readFile sites.depths (settingsIn sites.directory))
      = (.ok .defaults, first) := by
    unfold SettingsStore.readFile
    rw [attempt_bind_of_ok (attempt_exists?_of_notFound missing)]
    rfl
  have logDirectory : first.attempt (logDirectory environment)
      = (.ok (logsIn sites.directory), ready) := by
    rw [AppPaths.logDirectory, applicationDirectory_eq fresh.directory,
      attempt_bind_of_ok (attempt_made_of_there there)]
    exact attempt_made logs
  refine ⟨first, ready, fresh.depths, isPlain_directory fresh.directory, ?_,
    SettingsStore.run_remembering read id, ?_, ?_⟩
  · rw [settingsPath, applicationDirectory_eq fresh.directory,
      attempt_bind_of_ok (attempt_made top)]
    rfl
  · rw [logPath, attempt_bind_of_ok logDirectory]
    rfl
  · subst readyIs firstIs
    refine ⟨seated, ?_, ?_, ?_, ?_⟩
    · have none : readyTree.get? sites.settings = none := absent
      show Sites.StandsFor sites.depths (readyTree.get? sites.settings) .defaults
      rw [none]
      rfl
    · exact congrArg FileFaults.rename fresh.faultless
    · exact congrArg FileFaults.remove fresh.faultless
    · intro place opened
      have none : world.logFile = some place := opened
      rw [fresh.unlogged] at none
      cases none

/-! ### All runs -/

/-- Runs of which each starts with the files that the one before left, and how each ends. -/
def App.runs (environment : Environment) (dialog : Dialog) :
    List (List String) → World → List App.Ending × World
  | [], world => ([], world)
  | words :: rest, world =>
    let ran := App.run words environment dialog world
    let later := runs environment dialog rest (world.withTree ran.2.2.tree)
    (ran.1 :: later.1, later.2)

/-- The settings that a new store loads. -/
def App.loadedSettings (environment : Environment) : Action Settings := do
  let path ← settingsPath environment
  let (outcome, _) ← Action.ofProgram (SettingsStore.ofPath environment.depths path).load
  .ofExcept outcome

namespace Sites

/-- Between two runs: the next can begin and will find some settings. -/
structure Between (sites : Sites) (environment : Environment) (settings : Settings)
    (world : World) : Prop where
  depths : environment.depths = sites.depths
  directory : (baseDirectory environment).map (·.child applicationName) = .ok sites.directory
  faultless : world.faults = .none
  unlogged : world.logFile = none
  kept : settings.Kept
  begins : ∃ first ready, sites.Begins environment settings world first ready

theorem Fresh.between (fresh : sites.Fresh environment world) :
    sites.Between environment .defaults world where
  depths := fresh.depths
  directory := fresh.directory
  faultless := fresh.faultless
  unlogged := fresh.unlogged
  kept := Settings.kept_defaults
  begins := fresh.begins

namespace Between

/-- **One run leads to the next.** -/
theorem run (between : sites.Between environment settings world) (command : SettingsCommand)
    (dialog : Dialog) :
    (App.run command.words environment dialog world).1 = .exit 0
      ∧ sites.Between environment (command.apply settings)
          (world.withTree (App.run command.words environment dialog world).2.2.tree) := by
  obtain ⟨first, ready, begins⟩ := between.begins
  obtain ⟨later, ran, holds⟩ := begins.run command between.kept dialog
  rw [ran]
  have left : sites.Holds (command.apply settings) (world.withTree later.tree) := by
    refine ⟨holds.ready, holds.stands, ?_, ?_, ?_⟩
    · exact congrArg FileFaults.rename between.faultless
    · exact congrArg FileFaults.remove between.faultless
    · intro place opened
      have none : world.logFile = some place := opened
      rw [between.unlogged] at none
      cases none
  refine ⟨rfl, { between with kept := ?_, begins := ?_ }⟩
  · exact command.kept_apply between.kept
  · exact ⟨_, _, left.begins between.depths between.directory⟩

/-- **All runs end well**, and lead to what their commands make of the settings. -/
theorem runs (between : sites.Between environment settings world)
    (commands : List SettingsCommand) (dialog : Dialog) :
    (App.runs environment dialog (commands.map SettingsCommand.words) world).1
        = commands.map (fun _ => .exit 0)
      ∧ sites.Between environment
          (commands.foldl (fun settings command => command.apply settings) settings)
          (App.runs environment dialog (commands.map SettingsCommand.words) world).2 := by
  induction commands generalizing settings world with
  | nil => exact ⟨rfl, between⟩
  | cons command commands ih =>
    obtain ⟨ended, next⟩ := between.run command dialog
    obtain ⟨others, last⟩ := ih next
    rw [List.map_cons, App.runs, List.map_cons, List.foldl_cons, ended, others]
    exact ⟨rfl, last⟩

/-- What a new store loads is what the next run will find. -/
theorem loadedSettings (between : sites.Between environment settings world) :
    (world.attempt (App.loadedSettings environment)).1 = .ok settings := by
  obtain ⟨first, ready, begins⟩ := between.begins
  unfold App.loadedSettings
  rw [attempt_bind_of_ok begins.path, SettingsStore.ofPath, begins.depths,
    attempt_bind_of_ok (attempt_ofProgram_of_run begins.loaded)]
  rfl

end Between

end Sites

/-- **Commands about settings**, in any number of runs from a world without a settings file: every
run ends well, a new store loads the defaults with the assignments since the last command that goes
back to them, and every field has a value that is meant for it. -/
theorem App.settings_follow_commands (fresh : sites.Fresh environment world)
    (commands : List SettingsCommand) (dialog : Dialog) :
    (runs environment dialog (commands.map SettingsCommand.words) world).1
        = commands.map (fun _ => .exit 0)
      ∧ ((runs environment dialog (commands.map SettingsCommand.words) world).2.attempt
          (loadedSettings environment)).1
        = .ok (Settings.defaults.assigned (SettingsCommand.standing commands))
      ∧ (Settings.defaults.assigned (SettingsCommand.standing commands)).Valid := by
  have reached : commands.foldl (fun settings command => command.apply settings) .defaults
      = Settings.defaults.assigned (SettingsCommand.standing commands) := by
    rw [SettingsCommand.foldl_apply, ite_self]
  obtain ⟨ended, last⟩ := fresh.between.runs commands dialog
  rw [reached] at last
  exact ⟨ended, last.loadedSettings, last.kept.valid⟩

/-- A user whose settings are beside the place where the runs start. -/
def exampleEnvironment : Environment := ⟨.other, "/home/user", some "config", none, .usual⟩

/-- Where the files of that user are. -/
def exampleSites : Sites where
  directory := .ofText "config/MoveReleaseFetcher"
  depths := .usual
  settings := ["config", "MoveReleaseFetcher", "settings.json"]
  draft := ["config", "MoveReleaseFetcher", "settings.json.tmp"]
  log := ["config", "MoveReleaseFetcher", "logs", "fetcher.log"]

/-- The directories that the first run makes there. -/
def exampleTree : FileTree where
  entries := [(["config", "MoveReleaseFetcher", "logs"], .directory),
    (["config", "MoveReleaseFetcher"], .directory), (["config"], .directory)]
  privileged := false

/-- A world without files is fresh. -/
theorem exampleSites_fresh : exampleSites.Fresh exampleEnvironment .empty where
  depths := rfl
  directory := rfl
  faultless := rfl
  unlogged := rfl
  made := by
    have noDraft : exampleTree.get? exampleSites.draft = none := by decide +kernel
    have noLog : exampleTree.get? exampleSites.log = none := by decide +kernel
    have ready : exampleSites.Ready exampleTree := by
      refine ⟨rfl, rfl, rfl, rfl, rfl, ?_, ?_⟩
      · rw [noDraft]
        exact nofun
      · rw [noLog]
        exact nofun
    exact ⟨World.empty.withTree exampleTree, rfl, ready, rfl⟩

/-- A repository, and then, back at the defaults, a level and two timeouts. -/
def exampleCommands : List SettingsCommand :=
  [⟨[.assign "repository= user/tools " .repository
      (.text (Text.LooseText.ofString "user/tools")) rfl], nofun⟩,
    ⟨[.assign "request_timeout=7" .requestTimeout (.int 7) rfl, .reset,
      .assign "log_level=debug" .logLevel (.text (Text.LooseText.ofString "DEBUG")) rfl,
      .assign "request_timeout=9" .requestTimeout (.int 9) rfl], nofun⟩]

/-- Two runs, of which the second goes back to the defaults. -/
theorem App.settings_follow_commands_two_runs :
    exampleSites.Fresh exampleEnvironment .empty
      ∧ (runs exampleEnvironment default [["--set", "repository= user/tools "],
          ["--set", "request_timeout=7", "--reset-settings", "--set", "log_level=debug", "--set",
            "request_timeout=9"]] .empty).1 = [.exit 0, .exit 0]
      ∧ ((runs exampleEnvironment default (exampleCommands.map SettingsCommand.words)
          .empty).2.attempt (loadedSettings exampleEnvironment)).1
        = .ok (Settings.defaults.assigned [(.requestTimeout, .int 7),
          (.logLevel, .text (Text.LooseText.ofString "DEBUG")), (.requestTimeout, .int 9)])
      ∧ (Settings.defaults.assigned (SettingsCommand.standing exampleCommands)).Valid :=
  ⟨exampleSites_fresh, App.settings_follow_commands exampleSites_fresh exampleCommands default⟩

end Run

end AssetFetch
