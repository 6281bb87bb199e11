/-
**The application.**

A run prepares what it needs, does the one thing that its arguments call for, and ends with an exit
code or with a failure.

* `Task`: what is left to do when everything is prepared;
* `App.prepare`: settings, log and task;
* `Order.attempt`: looks up a release and downloads one of its assets;
* `Operator`: a host that attempts actions again if the user wishes; `Operator.perform` does the
  task, and `Operator.run` is a whole run;
* `App.conclude`: what a failure of the task means;
* `Order.fetch`, `App.run`: fetches and runs with a dialog in a world.
-/

import AssetFetch.AppPaths
import AssetFetch.CommandLine
import AssetFetch.Download
import AssetFetch.Logging
import AssetFetch.Retry
import AssetFetch.Settings.Store

namespace AssetFetch

open AssetFetch.Text

/-! ### Fetching an asset -/

/-- An asset to fetch, and how. -/
structure Order where
  tag : Value
  asset : Value
  destination : Destination
  settings : Settings
  mode : Given Int
  gunzip : Bool
  deriving Inhabited

/-- The release of a tag, asked for with the token that is stored now. -/
def lookupWith (settings : Settings) (tag : Value) : Action Release := do
  let token ← TokenStore.get
  let client : Client :=
    ⟨token, settings.value .apiBase, settings.value .repository, settings.value .requestTimeout⟩
  client.lookup tag

namespace Order

/-- The download of an asset that has been found. -/
def job (order : Order) (asset : Asset) : Download :=
  { url := asset.url
    destination := order.destination
    mode := order.mode
    title := "Downloading " ++ asset.name.shown
    gunzip := order.gunzip }

/-- One attempt: the lookup, and the download of the asset. -/
def attempt (order : Order) : Action Path := do
  let release ← lookupWith order.settings order.tag
  let asset ← .ofExcept (release.select order.asset)
  downloadReporting ⟨order.settings.value .downloadTimeout, defaultPieceSize⟩ (order.job asset)

/-- The logger of fetching. -/
def logger : String := "move_release_fetcher.main"

/-- Reports in the log what is going to be fetched. -/
def announce (order : Order) : Program Unit :=
  logLine .info logger
    ("Fetching " ++ order.asset.shown ++ " from release " ++ order.tag.shown ++ " of "
      ++ (order.settings.value .repository).shown)

end Order

/-! ### Preparing -/

/-- What is left to do: nothing, a new token, a list of assets, or an asset. -/
inductive Task where
  | finished (code : Nat)
  | renewToken
  | list (settings : Settings) (tag : Value)
  | fetch (order : Order)
  deriving Inhabited

namespace App

/-- The text, or the other value if the text is missing or empty. -/
def given (text : Option String) (otherwise : Value) : Value :=
  match text with
  | some characters => if characters.isEmpty then otherwise else .text characters
  | none => otherwise

/-- The changes of a list of assignments: the last one of a field counts. A blank changes nothing
that could be named. -/
def changesOf (assignments : List (Option (Field × Value))) :
    Except Failure (List (LooseText × Value)) :=
  match assignments.findIdx? Option.isNone with
  | some index => .error (.notAPair index)
  | none =>
    .ok ((assignments.filterMap id).foldl (fun changes assignment =>
      Value.setMember assignment.1.name assignment.2 changes) [])

/-- Whether a run is about settings. -/
def isAboutSettings (arguments : Arguments) : Bool :=
  arguments.resetSettings || !(arguments.assignments.getD []).isEmpty

/-- Resets and changes the settings as the arguments say. -/
def changeSettings (arguments : Arguments) (store : SettingsStore) : Action Unit := do
  let store ←
    if arguments.resetSettings then do
      let (outcome, store) ← Action.ofProgram store.reset
      discard (Action.ofExcept outcome)
      pure store
    else pure store
  let assignments := arguments.assignments.getD []
  if !assignments.isEmpty then
    let changes ← Action.ofExcept (changesOf assignments)
    let (outcome, _) ← Action.ofProgram (store.update changes)
    discard (Action.ofExcept outcome)

/-- A run about settings. -/
def settingsTask (arguments : Arguments) (store : SettingsStore) : Action Task :=
  (do
    changeSettings arguments store
    printLine store.path.looseText
    return .finished 0 : Action Task).orElse fun failure =>
      if failure.isSystem then do
        log .error mainLogger ("Failed to save settings: " ++ failure.message)
        tellLine ("Error: unable to save settings: " ++ failure.message)
        return .finished 1
      else throw failure

/-- The path that a value names. -/
def pathOf : Value → Except Failure Path
  | .text characters => .ok (.ofText characters)
  | other => .error (.notAPath other.kind)

/-- The path of a name that a value gives, within a directory. -/
def pathWithin (directory : Path) : Value → Except Failure Path
  | .text characters => .ok (directory.child characters)
  | other => .error (.notAName other.kind)

/-- Where an asset goes if the arguments do not say. -/
def defaultDestination (environment : Environment) (settings : Settings) (asset : Value) :
    Action Path := do
  let chosen := settings.value .downloadDirectory
  let directory ←
    if chosen.isTruthy then .ofExcept (pathOf chosen) else AppPaths.downloadDirectory environment
  .ofExcept (pathWithin directory asset)

/-- What the arguments and settings call for beyond settings. -/
def fetchTask (arguments : Arguments) (environment : Environment) (settings : Settings) :
    Action Task := do
  let tag := given arguments.tag (settings.value .releaseTag)
  if !tag.isTruthy then
    tellLine "No release tag given and none configured"
    return .finished 2
  else if arguments.list then return .list settings tag
  else
    let asset := given arguments.asset (settings.value .assetName)
    if !asset.isTruthy then
      tellLine "No asset name given and none configured"
      return .finished 2
    else
      let destination ←
        match arguments.output with
        | .value path => pure (.named path.looseText)
        | .blank => pure .blank
        | .absent => do
          let path ← defaultDestination environment settings asset
          pure (.named path.looseText)
      return .fetch ⟨tag, asset, destination, settings, arguments.mode, arguments.gunzip⟩

/-- Loads the settings, sets up the log and finds out what there is to do. -/
def prepare (arguments : Arguments) (environment : Environment) : Action Task := do
  let path ← AppPaths.settingsPath environment
  let (outcome, store) ← Action.ofProgram (SettingsStore.ofPath environment.depths path).load
  let settings ← .ofExcept outcome
  let level := if arguments.verbose then .int Severity.debug.number else settings.value .logLevel
  let logPath ← AppPaths.logPath environment
  discard (directLog level (some logPath) true)
  if isAboutSettings arguments then settingsTask arguments store
  else if arguments.tokenUpdate then return .renewToken
  else fetchTask arguments environment settings

/-! ### Performing -/

/-- The line of an asset: its name and its address. -/
def assetLine (asset : Asset) : LooseText :=
  asset.name.loose ++ ("\t" : LooseText) ++ asset.url.loose

/-- Prints a line for each asset. -/
def printAssets (assets : List Asset) : Action Unit :=
  assets.forM fun asset => printLine (assetLine asset)

/-- What a failure of the task means: an exit code, or a failure of the run. -/
def conclude (failure : Failure) : Action Nat :=
  match failure with
  | .interruption .keyboard _ => do
    log .info mainLogger "Interrupted"
    return 130
  | .fetch _ _ => do
    log .error mainLogger ("Download failed: " ++ failure.message)
    tellLine ("Error: " ++ failure.message)
    return 1
  | _ => throw failure

/-- How a run ends: with an exit code, with a wish to exit and the text that goes with it, or with a
failure that nothing answers. -/
inductive Ending where
  | exit (code : Nat)
  | stopped (text : Option String)
  | failed (failure : Failure)
  deriving Inhabited

/-- The end of a run by an outcome. -/
def Ending.ofOutcome : Except Failure Nat → Ending
  | .ok code => .exit code
  | .error (.interruption .exit text) => .stopped text
  | .error failure => .failed failure

end App

/-! ### Runs -/

/-- A host that attempts actions as often as the user wishes. -/
structure Operator (m : Type → Type) extends Host m where
  retry : {α : Type} → Action α → m (Except Failure α)

namespace Operator

variable {m : Type → Type} [Monad m] (operator : Operator m)

/-- Fetches an asset, as often as the user wishes. -/
def fetch (order : Order) : m (Except Failure Path) := do
  operator.carryOut order.announce
  operator.retry order.attempt

/-- Does what is left to do, and answers with the exit code. -/
def perform : Task → m (Except Failure Nat)
  | .finished code => return .ok code
  | .renewToken => return (← operator.renewToken).map fun _ => 0
  | .list settings tag => do
    match ← operator.retry (lookupWith settings tag) with
    | .error failure => return .error failure
    | .ok release => return (← operator.attempt (App.printAssets release.assets)).map fun _ => 0
  | .fetch order => do
    match ← operator.fetch order with
    | .error failure => return .error failure
    | .ok path => return (← operator.attempt (printLine path.looseText)).map fun _ => 0

/-- A run with arguments that have been read. -/
def runWith (arguments : Arguments) (environment : Environment) : m App.Ending := do
  match ← operator.attempt (App.prepare arguments environment) with
  | .error failure => return .ofOutcome (.error failure)
  | .ok task =>
    match ← operator.perform task with
    | .ok code => return .exit code
    | .error failure => return .ofOutcome (← operator.attempt (App.conclude failure))

/-- A whole run. -/
def run (words : List String) (environment : Environment) : m App.Ending := do
  match CommandLine.parseArguments words with
  | .error .help => do
    discard (operator.carryOut (AssetFetch.perform (.print helpText)))
    return .exit 0
  | .error (.mistake mistake) => do
    operator.carryOut (AssetFetch.perform (.tell (CommandLine.mistakeText mistake)))
    return .exit 2
  | .ok arguments => operator.runWith arguments environment

end Operator

/-- A dialog and a world, with the loop of attempts. -/
def scriptedOperator : Operator (StateM (Dialog × World)) :=
  { scripted with retry := fun action state => withRetry action state.1 state.2 }

/-- Fetches an asset, as often as the user wishes. -/
def Order.fetch (order : Order) (dialog : Dialog) (world : World) :
    Except Failure Path × Dialog × World :=
  scriptedOperator.fetch order (dialog, world)

namespace App

/-- Does what is left to do, and answers with the exit code. -/
def perform (task : Task) (dialog : Dialog) (world : World) : Except Failure Nat × Dialog × World :=
  scriptedOperator.perform task (dialog, world)

/-- A run with arguments that have been read. -/
def runWith (arguments : Arguments) (environment : Environment) (dialog : Dialog) (world : World) :
    Ending × Dialog × World :=
  scriptedOperator.runWith arguments environment (dialog, world)

/-- A whole run. -/
def run (words : List String) (environment : Environment) (dialog : Dialog) (world : World) :
    Ending × Dialog × World :=
  scriptedOperator.run words environment (dialog, world)

end App

/-! ### What the parts of a run come to -/

theorem Order.fetch_eq (order : Order) (dialog : Dialog) (world : World) :
    order.fetch dialog world = withRetry order.attempt dialog (world.run order.announce).2 := by
  have announced : scriptedOperator.carryOut order.announce (dialog, world)
      = ((), dialog, (world.run order.announce).2) := carryOut_scripted ..
  rw [fetch, Operator.fetch, bind_apply, announced]
  rfl

namespace App

/-- What is printed in the end decides about the code as well. -/
theorem perform_eq (task : Task) (dialog : Dialog) (world : World) :
    perform task dialog world
      = match task with
        | .finished code => (.ok code, dialog, world)
        | .renewToken =>
          let renewed := AssetFetch.renewToken dialog world
          (renewed.1.map fun _ => 0, renewed.2)
        | .list settings tag =>
          match withRetry (lookupWith settings tag) dialog world with
          | (.error failure, dialog, world) => (.error failure, dialog, world)
          | (.ok release, dialog, world) =>
            let printed := world.attempt (printAssets release.assets)
            (printed.1.map fun _ => 0, dialog, printed.2)
        | .fetch order =>
          match order.fetch dialog world with
          | (.error failure, dialog, world) => (.error failure, dialog, world)
          | (.ok path, dialog, world) =>
            let printed := world.attempt (printLine path.looseText)
            (printed.1.map fun _ => 0, dialog, printed.2) := by
  rw [perform]
  cases task with
  | finished code => rfl
  | renewToken => rfl
  | list settings tag =>
    have retried : scriptedOperator.retry (lookupWith settings tag) (dialog, world)
        = withRetry (lookupWith settings tag) dialog world := rfl
    simp only [Operator.perform, bind_apply, retried]
    generalize withRetry (lookupWith settings tag) dialog world = retried
    obtain ⟨outcome, next, after⟩ := retried
    cases outcome with
    | error failure => rfl
    | ok release =>
      have printed : scriptedOperator.attempt (printAssets release.assets) (next, after)
          = ((after.attempt (printAssets release.assets)).1, next,
            (after.attempt (printAssets release.assets)).2) := attempt_scripted ..
      simp only [bind_apply, printed]
      rfl
  | fetch order =>
    have fetched : scriptedOperator.fetch order (dialog, world) = order.fetch dialog world := rfl
    simp only [Operator.perform, bind_apply, fetched]
    generalize order.fetch dialog world = fetched
    obtain ⟨outcome, next, after⟩ := fetched
    cases outcome with
    | error failure => rfl
    | ok path =>
      have printed : scriptedOperator.attempt (printLine path.looseText) (next, after)
          = ((after.attempt (printLine path.looseText)).1, next,
            (after.attempt (printLine path.looseText)).2) := attempt_scripted ..
      simp only [bind_apply, printed]
      rfl

/-- What a failure of the preparations means is not asked. -/
theorem runWith_eq (arguments : Arguments) (environment : Environment) (dialog : Dialog)
    (world : World) :
    runWith arguments environment dialog world
      = match world.attempt (prepare arguments environment) with
        | (.error failure, world) => (.ofOutcome (.error failure), dialog, world)
        | (.ok task, world) =>
          match perform task dialog world with
          | (.ok code, dialog, world) => (.exit code, dialog, world)
          | (.error failure, dialog, world) =>
            let concluded := world.attempt (conclude failure)
            (.ofOutcome concluded.1, dialog, concluded.2) := by
  have prepared : scriptedOperator.attempt (prepare arguments environment) (dialog, world)
      = ((world.attempt (prepare arguments environment)).1, dialog,
        (world.attempt (prepare arguments environment)).2) := attempt_scripted ..
  simp only [runWith, Operator.runWith, bind_apply, prepared]
  generalize world.attempt (prepare arguments environment) = prepared
  obtain ⟨outcome, ready⟩ := prepared
  cases outcome with
  | error failure => rfl
  | ok task =>
    have performed : scriptedOperator.perform task (dialog, ready)
        = perform task dialog ready := rfl
    simp only [bind_apply, performed]
    generalize perform task dialog ready = performed
    obtain ⟨outcome, next, after⟩ := performed
    cases outcome with
    | ok code => rfl
    | error failure =>
      have concluded : scriptedOperator.attempt (conclude failure) (next, after)
          = ((after.attempt (conclude failure)).1, next, (after.attempt (conclude failure)).2) :=
        attempt_scripted ..
      simp only [bind_apply, concluded]
      rfl

section Words

variable {words : List String}

theorem run_of_help (parsed : CommandLine.parseArguments words = .error .help)
    (environment : Environment) (dialog : Dialog) (world : World) :
    run words environment dialog world = (.exit 0, dialog, (world.print helpText).2) := by
  rw [run, Operator.run, parsed]
  rfl

theorem run_of_mistake {mistake : CommandLine.Mistake}
    (parsed : CommandLine.parseArguments words = .error (.mistake mistake))
    (environment : Environment) (dialog : Dialog) (world : World) :
    run words environment dialog world
      = (.exit 2, dialog, world.tell (CommandLine.mistakeText mistake)) := by
  rw [run, Operator.run, parsed]
  rfl

theorem run_of_ok {arguments : Arguments}
    (parsed : CommandLine.parseArguments words = .ok arguments)
    (environment : Environment) (dialog : Dialog) (world : World) :
    run words environment dialog world = runWith arguments environment dialog world := by
  rw [run, Operator.run, parsed]
  rfl

end Words

end App

end AssetFetch
