/-
**What the end of a run tells.**

* `App.IsDestination`, `isDestination_iff`: where a run puts an asset;
* `exists_of_fetchTask`: what there is to do beyond settings and the token;
* `App.Succeeded`, `App.Unprintable`, `App.Agrees`: what a run has printed and left that exits with
  0, one that has done its work and cannot print what came of it, and what any other run leaves;
* `App.run_agrees`: **exit code, output and destination agree**, for every run;
* `failed_command_clears_draft`: why the draft of the settings is one of the application's own
  files.
-/

import AssetFetch.Proofs.Begun
import AssetFetch.Proofs.Order

namespace AssetFetch

open AppPaths FileTree World

namespace App

/-! ### Where an asset goes -/

section Goals

variable {arguments : Arguments} {environment : Environment} {world later : World}
  {settings : Settings}

/-- The path of an asset in the directory that the settings name for downloads, or else in the
application's own. -/
def defaultPath (environment : Environment) (settings : Settings) (asset : Value) :
    Except Failure Path := do
  let chosen := settings.value .downloadDirectory
  let directory ← if chosen.isTruthy then pathOf chosen
    else (directoryOf environment).map (·.child "bin")
  pathWithin directory asset

/-- Where a run puts an asset: the destination that is given, or the path in the directory for
downloads by the settings that a new store would load. -/
inductive IsDestination (arguments : Arguments) (environment : Environment) (world : World) :
    Path → Prop
  | given {path : Path} : arguments.output = .value path →
      IsDestination arguments environment world (.ofText path.looseText)
  | chosen {settings : Settings} {path : Path} : arguments.output = .absent →
      (world.attempt (loadedSettings environment)).1 = .ok settings →
      defaultPath environment settings (App.given arguments.asset (settings.value .assetName))
        = .ok path →
      IsDestination arguments environment world (.ofText path.looseText)

/-- The destination of a run, by its arguments and settings. -/
def destinationOf (arguments : Arguments) (environment : Environment) (settings : Settings) :
    Except Failure Destination :=
  match arguments.output with
  | .value path => .ok (.named path.looseText)
  | .blank => .ok .blank
  | .absent =>
    (defaultPath environment settings
      (App.given arguments.asset (settings.value .assetName))).map (.named ·.looseText)

theorem isDestination_iff {destination : Path}
    (loaded : (world.attempt (loadedSettings environment)).1 = .ok settings) :
    IsDestination arguments environment world destination
      ↔ ∃ target, destinationOf arguments environment settings = .ok target
        ∧ target.path = .ok destination := by
  constructor
  · rintro (output | ⟨output, also, path⟩)
    · exact ⟨_, by rw [destinationOf, output], rfl⟩
    · obtain rfl := Except.ok.inj (loaded.symm.trans also)
      exact ⟨_, by rw [destinationOf, output, path]; rfl, rfl⟩
  · rintro ⟨target, named, destined⟩
    unfold destinationOf at named
    split at named
    · cases named
      cases destined
      exact .given ‹_›
    · cases named
      cases destined
    · cases path : defaultPath environment settings
          (App.given arguments.asset (settings.value .assetName)) with
      | error failure =>
        rw [path] at named
        cases named
      | ok chosen =>
        rw [path] at named
        cases named
        cases destined
        exact .chosen ‹_› loaded path

/-- The path that is found for an asset is the default one. -/
theorem defaultPath_of_defaultDestination {asset : Value} {path : Path}
    (ok : world.attempt (defaultDestination environment settings asset) = (.ok path, later)) :
    defaultPath environment settings asset = .ok path := by
  unfold defaultDestination at ok
  unfold defaultPath
  by_cases chosen : (settings.value .downloadDirectory).isTruthy = true
  · simp only [if_pos chosen] at ok ⊢
    obtain ⟨directory, _, found, named⟩ := exists_of_attempt_bind ok
    obtain ⟨same, rfl⟩ := Prod.mk.inj ((attempt_ofExcept ..).symm.trans found)
    rw [same]
    exact congrArg Prod.fst named
  · simp only [if_neg chosen] at ok ⊢
    obtain ⟨bin, _, found, named⟩ := exists_of_attempt_bind ok
    obtain ⟨directory, _, there, made⟩ := exists_of_attempt_bind found
    obtain ⟨rfl, _⟩ := ensured_of_made made
    rw [(exists_applicationDirectory there).1]
    exact congrArg Prod.fst named

/-- **What there is to do** beyond settings and the token. -/
theorem exists_of_fetchTask {task : Task}
    (ok : world.attempt (fetchTask arguments environment settings) = (.ok task, later)) :
    task = .finished 2 ∨ (arguments.list = true ∧ ∃ tag, task = .list settings tag)
      ∨ (arguments.list = false ∧ ∃ order, task = .fetch order ∧ order.mode = arguments.mode
        ∧ order.gunzip = arguments.gunzip
        ∧ destinationOf arguments environment settings = .ok order.destination) := by
  have stopped : ∀ text : String, world.attempt (do
      tellLine text
      return .finished 2 : Action Task) = (.ok task, later) → task = .finished 2 := by
    intro text told
    obtain ⟨_, _, _, returned⟩ := exists_of_attempt_bind told
    cases returned
    rfl
  simp only [fetchTask] at ok
  by_cases tagged : (!(App.given arguments.tag (settings.value .releaseTag)).isTruthy) = true
  · rw [if_pos tagged] at ok
    exact .inl (stopped _ ok)
  rw [if_neg tagged] at ok
  by_cases list : arguments.list = true
  · rw [if_pos list] at ok
    cases ok
    exact .inr (.inl ⟨list, _, rfl⟩)
  rw [if_neg list] at ok
  by_cases named : (!(App.given arguments.asset (settings.value .assetName)).isTruthy) = true
  · rw [if_pos named] at ok
    exact .inl (stopped _ ok)
  rw [if_neg named] at ok
  refine .inr (.inr ⟨by simpa using list, ?_⟩)
  cases output : arguments.output with
  | value path =>
    simp only [output] at ok
    cases ok
    exact ⟨_, rfl, rfl, rfl, by simp only [destinationOf, output]⟩
  | blank =>
    simp only [output] at ok
    cases ok
    exact ⟨_, rfl, rfl, rfl, by simp only [destinationOf, output]⟩
  | absent =>
    simp only [output] at ok
    obtain ⟨path, _, found, chosen⟩ := exists_of_attempt_bind ok
    cases chosen
    refine ⟨_, rfl, rfl, rfl, ?_⟩
    simp only [destinationOf, output, defaultPath_of_defaultDestination found]
    rfl

end Goals

/-! ### What a run tells -/

/-- Whatever a run may put an asset at has been left alone. -/
def LeavesDestination (arguments : Arguments) (environment : Environment) (world later : World) :
    Prop :=
  ∀ destination, IsDestination arguments environment world destination →
    Untouched (IsOwn arguments environment) world.tree later.tree destination

/-- What a run has printed and left that exits with 0: the path of the settings file if it is about
settings, nothing if it is about the token, the assets of the release that the last reply describes
if they are to be listed, and otherwise the destination, which holds what the last reply brought. -/
inductive Succeeded (arguments : Arguments) (environment : Environment) (world later : World) :
    String → Prop
  | settings {directory : Path} : isAboutSettings arguments = true →
      directoryOf environment = .ok directory →
      Succeeded arguments environment world later ((settingsIn directory).text ++ "\n")
  | token : isAboutSettings arguments = false → arguments.tokenUpdate = true →
      Succeeded arguments environment world later ""
  | list {response : Response} {release : Release} : isAboutSettings arguments = false →
      arguments.tokenUpdate = false → arguments.list = true →
      world.LastReply later response → response.Describes release →
      (∀ asset ∈ release.assets, (assetLine asset).IsPlain) →
      Succeeded arguments environment world later (assetLines release.assets)
  | asset {destination : Path} {response : Response} {pieces : List Bytes} {data : Bytes} :
      isAboutSettings arguments = false → arguments.tokenUpdate = false → arguments.list = false →
      IsDestination arguments environment world destination →
      Brought arguments.gunzip arguments.mode world later destination response pieces data →
      destination.looseText.IsPlain →
      Succeeded arguments environment world later (destination.text ++ "\n")

/-- What a run has printed and left that has done its work and cannot print what came of it: the
assets before the first one whose line holds half of a pair, or nothing of the path of a
destination that holds one, where the last reply's data is nevertheless. -/
inductive Unprintable (arguments : Arguments) (environment : Environment) (world later : World) :
    String → Prop
  | list {response : Response} {release : Release} {before after : List Asset} {asset : Asset} :
      isAboutSettings arguments = false → arguments.tokenUpdate = false → arguments.list = true →
      world.LastReply later response → response.Describes release →
      release.assets = before ++ asset :: after →
      (∀ asset ∈ before, (assetLine asset).IsPlain) → ¬ (assetLine asset).IsPlain →
      LeavesDestination arguments environment world later →
      Unprintable arguments environment world later (assetLines before)
  | asset {destination : Path} {response : Response} {pieces : List Bytes} {data : Bytes} :
      isAboutSettings arguments = false → arguments.tokenUpdate = false → arguments.list = false →
      IsDestination arguments environment world destination →
      Brought arguments.gunzip arguments.mode world later destination response pieces data →
      ¬ destination.looseText.IsPlain →
      Unprintable arguments environment world later ""

/-- Exit code, output and destination agree. -/
structure Agrees (arguments : Arguments) (environment : Environment) (world : World)
    (ending : Ending) (later : World) : Prop where
  succeeded : ending = .exit 0 → ∃ text, later.output = world.output ++ text
    ∧ Succeeded arguments environment world later text
  failed : ending ≠ .exit 0 →
    (later.output = world.output ∧ LeavesDestination arguments environment world later)
      ∨ ∃ fault text, ending = .failed (.unencodable fault) ∧ later.output = world.output ++ text
        ∧ Unprintable arguments environment world later text

/-! ### The end of a run -/

section Ends

variable {arguments : Arguments} {environment : Environment} {world later begun half : World}
  {directory : Path} {settings : Settings} {failure : Failure} {place : Location}
  {paths : Path → Prop} {changed : Location → Prop} {store : SettingsStore} {dialog rest : Dialog}
  {ending : Ending}

/-- How a run ends by what its task comes to. -/
def endOf : Except Failure Nat × Dialog × World → Ending × Dialog × World
  | (.ok code, dialog, world) => (.exit code, dialog, world)
  | (.error failure, dialog, world) =>
    (.ofOutcome (world.attempt (conclude failure)).1, dialog, (world.attempt (conclude failure)).2)

/-- How a run ends by what its preparation comes to. -/
def finish (dialog : Dialog) : Except Failure Task × World → Ending × Dialog × World
  | (.error failure, world) => (.ofOutcome (.error failure), dialog, world)
  | (.ok task, world) => endOf (perform task dialog world)

theorem runWith_eq_finish (arguments : Arguments) (environment : Environment) (dialog : Dialog)
    (world : World) :
    runWith arguments environment dialog world
      = finish dialog (world.attempt (prepare arguments environment)) := by
  rw [runWith_eq]
  cases world.attempt (prepare arguments environment) with
  | mk result ready =>
    cases result with
    | error failure => rfl
    | ok task =>
      simp only [finish]
      cases perform task dialog ready with
      | mk result ended => cases result <;> rfl

/-- A preparation that fails does not end a run with 0, and nothing follows. -/
theorem finish_of_error
    (ended : finish dialog (.error failure, half) = (ending, rest, later)) :
    ending ≠ .exit 0 ∧ half = later := by
  obtain ⟨rfl, _, rfl⟩ : Ending.ofOutcome (.error failure) = ending ∧ dialog = rest
      ∧ half = later := by
    simpa only [finish, Prod.mk.injEq] using ended
  exact ⟨ofOutcome_error_ne_exit _ 0, rfl⟩

/-- **A task that fails** does not end a run with 0, and what follows prints nothing. -/
theorem endOf_of_error
    (ended : endOf (.error failure, dialog, half) = (ending, rest, later)) :
    ending ≠ .exit 0 ∧ ∀ paths changed, Passes paths changed half later := by
  have passing : ∀ paths, (conclude failure).Only (Effect.Passes paths) := by
    intro paths
    unfold conclude
    split
    · exact .bind (.ofProgram (.perform (Effect.passes_log _))) fun _ => .pure _
    · exact .bind (.ofProgram (.perform (Effect.passes_log _))) fun _ =>
        .bind (.ofProgram (.perform (Effect.passes_tell _))) fun _ => .pure _
    · exact .throw _
  obtain ⟨rfl, _, rfl⟩ : Ending.ofOutcome (half.attempt (conclude failure)).1 = ending
      ∧ dialog = rest ∧ (half.attempt (conclude failure)).2 = later := by
    simpa only [endOf, Prod.mk.injEq] using ended
  refine ⟨?_, fun paths _ => passes_run (passing paths) half⟩
  unfold conclude
  split
  · nofun
  · nofun
  · exact ofOutcome_error_ne_exit _ 0

/-- A run that does not end with 0 agrees if it has printed nothing and left its destination. -/
theorem agrees_of_failed (other : ending ≠ .exit 0) (output : later.output = world.output)
    (left : LeavesDestination arguments environment world later) :
    Agrees arguments environment world ending later :=
  ⟨fun zero => absurd zero other, fun _ => .inl ⟨output, left⟩⟩

/-- A run that exits with 0 agrees if it has succeeded. -/
theorem agrees_of_succeeded {text : String} (output : later.output = world.output ++ text)
    (succeeded : Succeeded arguments environment world later text) :
    Agrees arguments environment world (.exit 0) later :=
  ⟨fun _ => ⟨text, output, succeeded⟩, fun other => absurd rfl other⟩

/-- So does one that could not print what came of its work. -/
theorem agrees_of_unprintable {fault : Text.Unencodable} {text : String}
    (output : later.output = world.output ++ text)
    (unprintable : Unprintable arguments environment world later text) :
    Agrees arguments environment world (.failed (.unencodable fault)) later :=
  ⟨nofun, fun _ => .inr ⟨fault, text, rfl, output, unprintable⟩⟩

/-! ### Runs about settings -/

/-- What differs after a command is at the place of the log, of the settings file or of its draft.
-/
theorem Begun.confined_settings (begins : Begun environment world begun directory place) :
    Confined (IsSettingsFile directory) (fun location => location = place ∨ ∃ path,
      IsSettingsFile directory path ∧ begun.tree.placeOf path = .ok (.named location)) begun where
  named := by
    intro path own after kept location placed
    have parent : path.parent = directory := by
      rcases own with rfl | rfl
      · exact parent_settingsIn directory
      · exact (SettingsStore.parent_of_draftPath (draftPath_settingsIn directory)).trans
          (parent_settingsIn directory)
    have there : begun.tree.status path.parent = .ok .directory := parent ▸ begins.there
    exact .inr ⟨path, own, (placeOf_of_parent_there there kept).symm.trans placed⟩
  logged location inside := by
    rw [begins.logFile] at inside
    exact .inl (Option.some.inj inside).symm

theorem attempt_settingsTask_of_ok (plain : store.path.looseText.IsPlain)
    (changed : world.attempt (changeSettings arguments store) = (.ok (), half)) :
    world.attempt (settingsTask arguments store)
      = (.ok (.finished 0), { half with output := half.output ++ (store.path.text ++ "\n") }) := by
  rw [settingsTask_eq, attempt_orElse, attempt_bind_of_ok changed,
    attempt_bind_of_ok (attempt_printLine_of_plain plain half)]
  rfl

theorem attempt_settingsTask_of_error
    (failed : world.attempt (changeSettings arguments store) = (.error failure, half)) :
    world.attempt (settingsTask arguments store) = half.attempt (answerFailure failure) := by
  rw [settingsTask_eq, attempt_orElse, attempt_bind_of_error failed]

theorem passes_answerFailure (failure : Failure) (paths : Path → Prop) :
    (answerFailure failure).Only (Effect.Passes paths) :=
  .ite (.bind (.ofProgram (.perform (Effect.passes_log _))) fun _ =>
    .bind (.ofProgram (.perform (Effect.passes_tell _))) fun _ => .pure _) (.throw _)

/-- **A command that fails** does not end a run with 0, and what follows prints nothing. -/
theorem finish_of_answered
    (ended : finish dialog (half.attempt (answerFailure failure)) = (ending, rest, later)) :
    ending ≠ .exit 0 ∧ ∀ paths changed, Passes paths changed half later := by
  have passes : ∀ paths changed,
      Passes paths changed half (half.attempt (answerFailure failure)).2 := fun paths _ =>
    passes_run (passes_answerFailure failure paths) half
  by_cases refused : failure.isSystem = true
  · simp only [answerFailure, if_pos refused] at passes ended
    cases ended
    exact ⟨nofun, passes⟩
  · simp only [answerFailure, if_neg refused] at passes ended
    obtain ⟨other, rfl⟩ := finish_of_error ended
    exact ⟨other, passes⟩

/-- **Runs about settings.** -/
theorem agrees_settingsTask (begins : Begun environment world begun directory place)
    (about : isAboutSettings arguments = true)
    (ended : finish dialog (begun.attempt
      (settingsTask arguments ⟨environment.depths, settingsIn directory, some settings⟩))
        = (ending, rest, later)) :
    Agrees arguments environment world ending later := by
  let store : SettingsStore := ⟨environment.depths, settingsIn directory, some settings⟩
  have silent : (begun.attempt (changeSettings arguments store)).2.output = world.output :=
    (output_run ((local_changeSettings arguments _).mono fun _ => Effect.IsLocal.unprinted)
      begun).trans begins.output
  have plain : store.path.looseText.IsPlain :=
    (isPlain_settingsIn (isPlain_directory begins.named)).looseText
  cases changed : begun.attempt (changeSettings arguments store) with
  | mk result half =>
    rw [changed] at silent
    cases result with
    | ok _ =>
      rw [attempt_settingsTask_of_ok plain changed] at ended
      cases ended
      exact agrees_of_succeeded (congrArg (· ++ _) silent) (.settings about begins.named)
    | error failure =>
      have drafts : ∀ draft, SettingsStore.draftPath (settingsIn directory) = .ok draft →
          IsSettingsFile directory draft := fun draft drafted =>
        .inr (Except.ok.inj (drafted.symm.trans (draftPath_settingsIn directory)))
      have confines := confines_changeSettings_of_error begins.confined_settings (.inl rfl) drafts
        changed
      rw [attempt_settingsTask_of_error changed] at ended
      obtain ⟨other, all⟩ := finish_of_answered ended
      have whole := confines.trans ((all _ _).confines confines.confined)
      have output : later.output = world.output :=
        (all (IsSettingsFile directory) (· = place)).output.trans silent
      refine agrees_of_failed other output fun destination _ => ?_
      refine begins.untouched whole.grown fun location _ here => here.imp_right ?_
      rintro ⟨path, own, placed⟩
      exact ⟨path, ⟨directory, begins.named, .inr ⟨about, own⟩⟩,
        placeOf_of_directories whole.grown.directories placed⟩

/-! ### Other runs -/

/-- What is done after setting out, if only the log and files of other names than the destination's
differ, leaves the destination alone. -/
theorem leavesDestination_of_passes (begins : Begun environment world begun directory place)
    (passes : Passes paths (LogOrNamed place paths) begun later)
    (apart : ∀ destination, IsDestination arguments environment world destination →
      ∀ path, paths path → path.fileName ≠ destination.fileName) :
    LeavesDestination arguments environment world later := by
  intro destination goal
  refine begins.untouched (passes.confines (begins.confined paths)).grown
    fun location placed here => here.imp_right ?_
  rintro ⟨path, own, named⟩
  have same := named.symm.trans (getLast?_of_placed placed)
  exact absurd (Option.some.inj same) (apart destination goal path own)

theorem agrees_of_passes (begins : Begun environment world begun directory place)
    (other : ending ≠ .exit 0)
    (passes : Passes paths (LogOrNamed place paths) begun later)
    (apart : ∀ destination, IsDestination arguments environment world destination →
      ∀ path, paths path → path.fileName ≠ destination.fileName) :
    Agrees arguments environment world ending later :=
  agrees_of_failed other (passes.output.trans begins.output)
    (leavesDestination_of_passes begins passes apart)

/-- So does a task that fails then. -/
theorem agrees_of_error (begins : Begun environment world begun directory place)
    (passes : Passes paths (LogOrNamed place paths) begun half)
    (apart : ∀ destination, IsDestination arguments environment world destination →
      ∀ path, paths path → path.fileName ≠ destination.fileName)
    (ended : endOf (.error failure, dialog, half) = (ending, rest, later)) :
    Agrees arguments environment world ending later := by
  obtain ⟨other, all⟩ := endOf_of_error ended
  exact agrees_of_passes begins other (passes.trans (all _ _)) apart

/-- **Runs about the token.** -/
theorem agrees_renewToken (begins : Begun environment world begun directory place)
    (about : isAboutSettings arguments = false) (update : arguments.tokenUpdate = true)
    (ended : finish dialog (.ok .renewToken, begun) = (ending, rest, later)) :
    Agrees arguments environment world ending later := by
  have passes : Passes (fun _ => False) (LogOrNamed place fun _ => False) begun
      (renewToken dialog begun).2.2 := passes_renewToken dialog begun
  simp only [finish, perform_eq] at ended
  cases renewed : renewToken dialog begun with
  | mk result after =>
    obtain ⟨next, last⟩ := after
    rw [renewed] at ended passes
    cases result with
    | ok _ =>
      cases ended
      refine agrees_of_succeeded ?_ (.token about update)
      exact (passes.output.trans begins.output).trans (String.append_empty).symm
    | error failure => exact agrees_of_error begins passes (fun _ _ _ never => never.elim) ended

/-- **Runs that list the assets of a release.** -/
theorem agrees_list {tag : Value} (begins : Begun environment world begun directory place)
    (about : isAboutSettings arguments = false) (update : arguments.tokenUpdate = false)
    (list : arguments.list = true)
    (passes : Passes (fun _ => False) (LogOrNamed place fun _ => False) begun half)
    (ended : endOf (perform (.list settings tag) dialog half) = (ending, rest, later)) :
    Agrees arguments environment world ending later := by
  have lookups : Retry.Ended _ _ (lookupWith settings tag) _
      (withRetry (lookupWith settings tag) dialog half) := ended_lookups dialog passes
  simp only [perform_eq] at ended
  generalize withRetry (lookupWith settings tag) dialog half = result at ended lookups
  cases lookups with
  | succeeded before looked =>
    rename_i release next middle last
    have whole : Passes (fun _ => False) (LogOrNamed place fun _ => False) begun last := by
      have looking : Passes (fun _ => False) (LogOrNamed place fun _ => False) middle
          (middle.attempt (lookupWith settings tag)).2 :=
        passes_run (passes_lookupWith settings tag) middle
      rw [looked] at looking
      exact before.trans looking
    have output : last.output = world.output := whole.output.trans begins.output
    obtain ⟨response, first, describes, sent⟩ := exists_looked looked
    have replied : world.LastReply last response :=
      (before.onward.lastReply first sent).of_onward begins.onward
    have left : LeavesDestination arguments environment world last :=
      leavesDestination_of_passes begins whole fun _ _ _ never => never.elim
    rcases attempt_printAssets release.assets last with
      ⟨plain, printed⟩ | ⟨shown, asset, behind, fault, split, plain, halves, refused⟩
    · simp only [printed] at ended
      cases ended
      exact agrees_of_succeeded (congrArg (· ++ _) output)
        (.list about update list replied describes plain)
    · simp only [refused] at ended
      cases ended
      exact agrees_of_unprintable (congrArg (· ++ _) output)
        (.list about update list replied describes split plain halves left)
  | failed passes => exact agrees_of_error begins passes (fun _ _ _ never => never.elim) ended

/-- **What a try brings that succeeds** is what the run brings: the steps before it have left the
name of the new file, the place of the log and the replies that are left. -/
theorem exists_brought {order : Order} {path : Path} (isToken : IsToken world.name)
    (begins : Begun environment world begun directory place)
    (mode : order.mode = arguments.mode) (gunzip : order.gunzip = arguments.gunzip)
    (before : Passes paths changed begun half)
    (fetched : half.attempt order.attempt = (.ok path, later)) :
    order.destination.path = .ok path ∧ ∃ response pieces data,
      World.Brought arguments.gunzip arguments.mode world later path response pieces data := by
  have name : half.name = world.name := before.onward.name.trans begins.onward.name
  have away : ∀ destination : Path, ∀ spot ∈ half.logFile,
      spot.getLast? ≠ some (destination.fresh half.name).fileName := by
    intro destination spot inside same
    have opened := before.logFile spot inside
    rw [begins.logFile] at opened
    obtain rfl : place = spot := Option.some.inj opened
    exact name_fresh_ne_log (name ▸ isToken) destination directory
      (Option.some.inj (same.symm.trans begins.getLast?_place))
  obtain ⟨destined, response, pieces, data, brought⟩ :=
    Order.exists_fetched (name ▸ isToken) away fetched
  refine ⟨destined, response, pieces, data, ?_⟩
  rw [← mode, ← gunzip]
  exact { brought with
    replied := (brought.replied.of_onward before.onward).of_onward begins.onward }

/-- **Runs that fetch an asset.** -/
theorem agrees_fetch {order : Order} (isToken : IsToken world.name)
    (begins : Begun environment world begun directory place)
    (about : isAboutSettings arguments = false) (update : arguments.tokenUpdate = false)
    (list : arguments.list = false) (mode : order.mode = arguments.mode)
    (gunzip : order.gunzip = arguments.gunzip)
    (goal : ∀ destination, IsDestination arguments environment world destination
      ↔ order.destination.path = .ok destination)
    (passes : ∀ paths changed, Passes paths changed begun half)
    (ended : endOf (perform (.fetch order) dialog half) = (ending, rest, later)) :
    Agrees arguments environment world ending later := by
  have name : begun.name = world.name := begins.onward.name
  let paths : Path → Prop := fun path =>
    ∃ destination, order.destination.path = .ok destination ∧ path = destination.fresh begun.name
  have announced : Passes paths (LogOrNamed place paths) half (half.run order.announce).2 :=
    passes_run (.perform (Effect.passes_log _)) half
  have own : ∀ destination, order.destination.path = .ok destination →
      paths (destination.fresh begun.name) :=
    fun destination destined => ⟨destination, destined, rfl⟩
  have fetches := Order.ended_fetches own dialog ((passes paths _).trans announced)
  simp only [perform_eq, Order.fetch_eq] at ended
  generalize withRetry order.attempt dialog (half.run order.announce).2 = result at ended fetches
  cases fetches with
  | succeeded before fetched =>
    rename_i path next middle last
    have silent : last.output = middle.output := by
      have same := output_run order.unprinted_attempt middle
      rwa [show middle.run order.attempt.outcome = _ from fetched] at same
    obtain ⟨destined, response, pieces, data, brought⟩ :=
      exists_brought isToken begins mode gunzip before fetched
    have output : last.output = world.output :=
      silent.trans (before.output.trans begins.output)
    by_cases plain : path.looseText.IsPlain
    · simp only [attempt_printLine_of_plain plain last] at ended
      cases ended
      exact agrees_of_succeeded (congrArg (· ++ _) output)
        (.asset about update list ((goal path).mpr destined)
          ⟨brought.replied, brought.arrived, brought.unpacked, brought.holds⟩ plain)
    · obtain ⟨fault, refused⟩ := attempt_printLine_of_halves plain last
      simp only [refused] at ended
      cases ended
      exact agrees_of_unprintable (output.trans (String.append_empty).symm)
        (.asset about update list ((goal path).mpr destined) brought plain)
  | failed passes =>
    refine agrees_of_error begins passes ?_ ended
    rintro destination aim path ⟨target, destined, rfl⟩
    obtain rfl : target = destination := Except.ok.inj (destined.symm.trans ((goal _).mp aim))
    exact (fresh_beside (name ▸ isToken) target).name

/-- **Runs that list assets or fetch one.** -/
theorem agrees_fetchTask (isToken : IsToken world.name)
    (begins : Begun environment world begun directory place)
    (loaded : (world.attempt (loadedSettings environment)).1 = .ok settings)
    (about : isAboutSettings arguments = false) (update : arguments.tokenUpdate = false)
    (ended : finish dialog (begun.attempt (fetchTask arguments environment settings))
      = (ending, rest, later)) : Agrees arguments environment world ending later := by
  have passes : ∀ paths changed, Passes paths changed begun
      (begun.attempt (fetchTask arguments environment settings)).2 := fun _ _ =>
    passes_run (only_fetchTask _ _ (fun _ => .of_directories) Effect.passes_tell _) begun
  cases found : begun.attempt (fetchTask arguments environment settings) with
  | mk result half =>
    rw [found] at ended passes
    cases result with
    | error failure =>
      obtain ⟨other, rfl⟩ := finish_of_error ended
      exact agrees_of_passes begins other (passes (fun _ => False) _)
        fun _ _ _ never => never.elim
    | ok task =>
      simp only [finish] at ended
      rcases exists_of_fetchTask found with rfl | ⟨list, tag, rfl⟩
        | ⟨list, order, rfl, mode, gunzip, named⟩
      · cases ended
        exact agrees_of_passes begins nofun (passes (fun _ => False) _)
          fun _ _ _ never => never.elim
      · exact agrees_list begins about update list (passes _ _) ended
      · refine agrees_fetch isToken begins about update list mode gunzip (fun destination => ?_)
          passes ended
        rw [isDestination_iff loaded]
        constructor
        · rintro ⟨target, also, destined⟩
          obtain rfl := Except.ok.inj (named.symm.trans also)
          exact destined
        · exact fun destined => ⟨_, named, destined⟩

/-! ### Whole runs -/

/-- **Exit code, output and destination agree**: a run that exits with 0 has printed just what its
arguments ask for, and has left the destination with what the last reply brought; any other run has
printed nothing, and has left its destination alone, unless what it had to print holds half of a
pair. -/
theorem run_agrees {words : List String} (parsed : CommandLine.parseArguments words = .ok arguments)
    (isToken : IsToken world.name)
    (ended : run words environment dialog world = (ending, rest, later)) :
    Agrees arguments environment world ending later := by
  rw [run_of_ok parsed, runWith_eq_finish, prepare_eq, attempt_bind] at ended
  cases out : world.attempt (setOut arguments environment) with
  | mk result begun =>
    rw [out] at ended
    cases result with
    | error failure =>
      obtain ⟨other, rfl⟩ := finish_of_error ended
      have silent := output_run ((local_setOut arguments environment).mono fun _ =>
        Effect.IsLocal.unprinted) world
      rw [show world.run _ = _ from out] at silent
      refine agrees_of_failed other silent fun destination _ => ?_
      have grown : GrownBut (fun _ => False) world.tree begun.tree :=
        .of_grown (grown_of_setOut_error out)
      exact untouched_of_grownBut grown fun _ _ never => never.elim
    | ok found =>
      obtain ⟨path, settings⟩ := found
      obtain ⟨loaded, directory, place, rfl, begins⟩ := exists_begun out
      simp only [goOn] at ended
      split at ended
      · exact agrees_settingsTask begins ‹_› ended
      · rename_i about
        have about : isAboutSettings arguments = false := by simpa using about
        split at ended
        · exact agrees_renewToken begins about ‹_› ended
        · rename_i update
          exact agrees_fetchTask isToken begins loaded about (by simpa using update) ended

end Ends

/-! ### A run that fetches an asset -/

/-- The words of a command line are read if something can be told of what is read. -/
theorem exists_arguments {words : List String} {output : Given Path}
    (read : (CommandLine.parseArguments words).toOption.map Arguments.output = some output) :
    ∃ arguments, CommandLine.parseArguments words = .ok arguments ∧ arguments.output = output := by
  cases result : CommandLine.parseArguments words with
  | ok arguments =>
    rw [result] at read
    exact ⟨arguments, rfl, Option.some.inj read⟩
  | error ended =>
    rw [result] at read
    cases read

/-- The description of a release with one asset. -/
def exampleRelease : String :=
  "\x7b\"name\": \"v1\", \"assets\": [\x7b\"name\": \"tool\", "
    ++ "\"browser_download_url\": \"https://host/tool\"\x7d]\x7d"

/-- A directory for an asset, and a network that describes a release and hands the asset over. -/
def exampleServed : World :=
  { World.empty with
    tree := ⟨[(["out"], .directory), (["config"], .directory)], false⟩
    script := [.ok ⟨200, [], .whole (Text.encode exampleRelease), .utf8 Json.Depths.usual.read⟩,
      .ok ⟨200, [("Content-Length", .text (Text.LooseText.ofString "3"))],
        .pieces [.ok (Text.encode "abc")], .utf8 Json.Depths.usual.read⟩] }

/-- Fetch the asset into the directory. -/
def exampleFetch : List String := ["v1", "tool", "--output", "out/tool"]

/-- A run that fetches an asset. -/
theorem run_agrees_served :
    ∃ arguments, CommandLine.parseArguments exampleFetch = .ok arguments
      ∧ IsToken exampleServed.name
      ∧ (run exampleFetch exampleEnvironment default exampleServed).1 = .exit 0
      ∧ Agrees arguments exampleEnvironment exampleServed (.exit 0)
          (run exampleFetch exampleEnvironment default exampleServed).2.2 := by
  have read : (CommandLine.parseArguments exampleFetch).toOption.map Arguments.output
      = some (.value (.ofText "out/tool")) := by
    decide +kernel
  obtain ⟨arguments, parsed, _⟩ := exists_arguments read
  have isToken : IsToken exampleServed.name := by decide
  have exits : (run exampleFetch exampleEnvironment default exampleServed).1 = .exit 0 := by
    decide +kernel
  exact ⟨arguments, parsed, isToken, exits, run_agrees parsed isToken (eq_of_exits exits)⟩

/-! ### The draft of the settings -/

/-- The log file or the settings file. -/
def IsLogOrSettings (environment : Environment) (path : Path) : Prop :=
  ∃ directory, directoryOf environment = .ok directory
    ∧ (path = logIn directory ∨ path = settingsIn directory)

/-- The path of the draft of the settings. -/
def exampleDraft : Path := .ofText "config/MoveReleaseFetcher/settings.json.tmp"

/-- A disk where no file can be moved over another, with notes in the place of the draft. -/
def exampleNotes : World :=
  { exampleCrowded with
    tree := .mk [
      (["config", "MoveReleaseFetcher", "settings.json.tmp"], .file (Text.encode "notes") 0o644),
      (["config", "MoveReleaseFetcher"], .directory), (["config"], .directory)] false }

/-- Set a name, and mention the notes as a destination. -/
def exampleMention : List String :=
  ["--set", "asset_name=tool", "--output", "config/MoveReleaseFetcher/settings.json.tmp"]

/-- **The draft is one more file that a run about settings spoils**: a destination in its place is
gone after a save that fails, though it is neither the log file nor the settings file. -/
theorem failed_command_clears_draft :
    ∃ arguments, CommandLine.parseArguments exampleMention = .ok arguments
      ∧ IsDestination arguments exampleEnvironment exampleNotes exampleDraft
      ∧ (run exampleMention exampleEnvironment default exampleNotes).1 = .exit 1
      ∧ ¬ Untouched (IsLogOrSettings exampleEnvironment) exampleNotes.tree
          (run exampleMention exampleEnvironment default exampleNotes).2.2.tree exampleDraft := by
  have read : (CommandLine.parseArguments exampleMention).toOption.map Arguments.output
      = some (.value exampleDraft) := by
    decide +kernel
  obtain ⟨arguments, parsed, output⟩ := exists_arguments read
  have same : .ofText exampleDraft.looseText = exampleDraft := by decide +kernel
  have placed : exampleNotes.tree.placeOf exampleDraft
      = .ok (.named ["config", "MoveReleaseFetcher", "settings.json.tmp"]) := by
    decide +kernel
  -- one run settles how it ends and what it leaves
  have ran : (run exampleMention exampleEnvironment default exampleNotes).1 = .exit 1
      ∧ (run exampleMention exampleEnvironment default exampleNotes).2.2.tree.get?
        ["config", "MoveReleaseFetcher", "settings.json.tmp"] = none := by
    decide +kernel
  obtain ⟨exits, gone⟩ := ran
  refine ⟨arguments, parsed, same ▸ .given output, exits, fun untouched => ?_⟩
  rcases untouched.kept _ (untouched.placed _ placed)
    with ⟨path, ⟨directory, _, rfl | rfl⟩, here⟩ | kept | ⟨missing, _⟩
  · have names := getLast?_of_placed here
    rw [fileName_logIn] at names
    revert names
    decide +kernel
  · have names := getLast?_of_placed here
    rw [fileName_settingsIn] at names
    revert names
    decide +kernel
  · rw [gone] at kept
    revert kept
    decide
  · revert missing
    decide

end App

end AssetFetch
