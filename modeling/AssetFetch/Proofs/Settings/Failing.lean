/-
**Commands about settings that fail.**

A command may go back to the defaults and then make assignments. The two are separate steps: the
file is removed, and then another one is written and moved to its place.

* `run_update`: what the store does when it changes the settings that it knows;
* `assign_of_error`: assignments that fail leave what the settings file says;
* `confines_changeSettings_of_error`: a failed command keeps everything but its own files;
* `changeSettings_of_error`: **what a failed command leaves**: what the file said, unless it has
  been removed before the assignments failed;
* `App.loadedSettings_of_failed`, `App.failed_command_keeps_settings_iff`: the same of a whole run.
-/

import AssetFetch.Proofs.Preparing

namespace AssetFetch

open AppPaths FileTree World

section Failing

variable {environment : Environment} {world later : World} {depths : Json.Depths} {path : Path}
  {settings : Settings} {failure : Failure} {arguments : Arguments}

/-! ### The store -/

namespace SettingsStore

/-- What the store does when it changes the settings that it knows. -/
theorem run_update (depths : Json.Depths) (path : Path) (settings : Settings)
    (changes : List (Text.LooseText × Value)) (world : World) :
    world.run (update ⟨depths, path, some settings⟩ changes)
      = match nameFault? changes with
        | some failure => ((.error failure, ⟨depths, path, some settings⟩), world)
        | none =>
          match world.attempt (replaceFile depths path (settings.overlay changes)) with
          | (.ok _, later) =>
            ((.ok (settings.overlay changes),
              ⟨depths, path, some (settings.overlay changes)⟩), later)
          | (.error failure, later) =>
            ((.error failure, ⟨depths, path, some settings⟩), later) := by
  unfold update
  cases nameFault? changes with
  | some failure => rfl
  | none =>
    show world.run (save ⟨depths, path, some settings⟩ (settings.overlay changes) >>= _) = _
    rw [run_bind, save, run_remembering_eq]
    simp only
    cases world.attempt (replaceFile depths path (settings.overlay changes)) with
    | mk result later => cases result <;> rfl

end SettingsStore

open SettingsStore

/-- Assignments fail before anything is saved, or with the save. -/
theorem App.exists_of_assign_error
    (failed : world.attempt (assign arguments ⟨depths, path, some settings⟩)
      = (.error failure, later)) :
    later = world
      ∨ ∃ changed, world.attempt (replaceFile depths path changed) = (.error failure, later) := by
  unfold assign at failed
  by_cases none : (!(arguments.assignments.getD []).isEmpty) = true
  · simp only [if_pos none] at failed
    cases changed : changesOf (arguments.assignments.getD []) with
    | error other =>
      rw [changed] at failed
      cases failed
      exact .inl rfl
    | ok changes =>
      rw [changed, attempt_bind_of_ok (attempt_ofExcept ..),
        attempt_bind_of_ok (attempt_ofProgram ..), run_update] at failed
      cases named : nameFault? changes with
      | some other =>
        simp only [named] at failed
        cases failed
        exact .inl rfl
      | none =>
        simp only [named] at failed
        cases replaced : world.attempt (replaceFile depths path (settings.overlay changes)) with
        | mk result after =>
          rw [replaced] at failed
          cases result with
          | ok _ => cases failed
          | error other =>
            cases failed
            exact .inr ⟨_, replaced⟩
  · simp only [if_neg none] at failed
    cases failed

/-- **Assignments that fail leave what the settings file says.** -/
theorem App.assign_of_error (seated : Seated path world)
    (failed : world.attempt (assign arguments ⟨depths, path, some settings⟩)
      = (.error failure, later)) :
    Leaves path world later := by
  rcases exists_of_assign_error failed with rfl | ⟨changed, replaced⟩
  · exact .refl seated.logged
  · exact replaceFile_of_error (steady_of_parent seated.parent) seated.logged replaced

/-- What a command does first if it goes back to the defaults. -/
theorem App.changeSettings_of_resets (resets : arguments.resetSettings = true)
    (depths : Json.Depths) (path : Path) (known : Option Settings) :
    changeSettings arguments ⟨depths, path, known⟩ = (do
      let defaults ← removeFile path
      assign arguments ⟨depths, path, some defaults⟩) := by
  rw [changeSettings_eq, if_pos resets]
  have step := bind_remembering ⟨depths, path, known⟩ (removeFile path) id fun _ store =>
    assign arguments store
  unfold SettingsStore.reset
  simp only [discard, map_const, Function.comp_apply, Function.const_apply, map_eq_pure_bind,
    bind_assoc, pure_bind]
  exact step

/-- Where a file that is there cannot be removed, it has not been a settings file. -/
theorem SettingsStore.said_of_unremovable {privileged : Bool} {tree : FileTree} {fault : FileFault}
    (refused : tree.remove path = .error fault)
    (said : said depths privileged path (tree.status path) = .ok settings) :
    settings = .defaults := by
  cases status : tree.status path with
  | error other =>
    rw [status, SettingsStore.said] at said
    split at said
    · exact (Except.ok.inj said).symm
    · cases said
  | ok entry =>
    cases entry with
    | directory =>
      rw [status] at said
      exact (Except.ok.inj said).symm
    | file content mode =>
      unfold FileTree.status at status
      unfold FileTree.remove at refused
      cases located : tree.locate path with
      | error other => simp [located] at status
      | ok place =>
        cases place with
        | fixed location => simp [located] at status
        | named location =>
          cases found : tree.get? location with
          | none => simp [located, found] at status
          | some entry =>
            cases entry with
            | directory => simp [located, found] at status
            | file content mode => simp [located, found] at refused

/-! ### What a failed command leaves -/

/-- What there is of a settings file after some steps: what it says, the directories, and that the
log is no file of its name. -/
structure SettingsStore.Remains (depths : Json.Depths) (path : Path) (before after : World)
    (settings : Settings) : Prop where
  said : SettingsStore.said depths before.tree.privileged path (after.tree.status path)
    = .ok settings
  directories : ∀ place, before.tree.get? place = some .directory →
    after.tree.get? place = some .directory
  logged : ∀ place ∈ after.logFile, place.getLast? ≠ some path.fileName

namespace SettingsStore.Remains

theorem of_leaves
    (said : SettingsStore.said depths world.tree.privileged path (world.tree.status path)
      = .ok settings) (leaves : Leaves path world later) :
    Remains depths path world later settings :=
  ⟨leaves.same.said ▸ said, leaves.directories, leaves.logged⟩

theorem leaves {last : World} (remains : Remains depths path world later settings)
    (leaves : Leaves path later last) : Remains depths path world last settings :=
  ⟨leaves.same.said ▸ remains.said,
    fun place there => leaves.directories place (remains.directories place there), leaves.logged⟩

theorem seated (remains : Remains depths path world later settings) (seated : Seated path world) :
    Seated path later :=
  ⟨status_of_directories remains.directories seated.parent, remains.logged⟩

/-- Nothing remains of a file that has been removed. -/
theorem of_removed {place : Location} {content : Bytes} {mode : Nat}
    (seated : Seated path world) (located : world.tree.locate path = .ok (.named place))
    (found : world.tree.get? place = some (.file content mode)) :
    Remains depths path world ((world.withoutLogAt path).withTree (world.tree.erase place))
      .defaults := by
  rw [withoutLogAt_of_named seated.logged]
  refine ⟨?_, directories_erase found, seated.logged⟩
  rw [withTree_tree, status_erase located found]
  rfl

end SettingsStore.Remains

/-- The settings that a command leaves which fails: where it has gone back to the defaults before,
and has removed the file, those are the defaults. -/
def App.settingsLeft (arguments : Arguments) (faults : FileFaults) (settings : Settings) :
    Settings :=
  if arguments.resetSettings && faults.remove.isNone then .defaults else settings

/-- **What a command leaves that fails.** -/
theorem App.changeSettings_of_error (seated : Seated path world)
    (said : said depths world.tree.privileged path (world.tree.status path) = .ok settings)
    (failed : world.attempt (changeSettings arguments ⟨depths, path, some settings⟩)
      = (.error failure, later)) :
    Remains depths path world later (settingsLeft arguments world.faults settings) := by
  unfold settingsLeft
  by_cases resets : arguments.resetSettings = true
  · -- whatever the removal leaves, the line about it and the assignments leave as well
    have rest : ∀ {after : World} {left : Settings}, Remains depths path world after left →
        (after.run (logLine .info logger "Settings reset to defaults")).2.attempt
            (assign arguments ⟨depths, path, some .defaults⟩) = (.error failure, later) →
        Remains depths path world later left := by
      intro after left remains assigned
      rw [run_logLine] at assigned
      have noted := remains.leaves (leaves_log remains.logged
        ⟨.number Severity.info.number, logger, "Settings reset to defaults"⟩)
      exact noted.leaves (assign_of_error (noted.seated seated) assigned)
    rw [changeSettings_of_resets resets, attempt_bind, attempt_removeFile] at failed
    simp only [resets, Bool.true_and]
    rcases attempt_removeIfPresent path world with
      ⟨removed, none⟩ | ⟨_, _, _, located, found, faultless, removed⟩ | ⟨_, _, refused, removed⟩
    · rw [removed] at failed
      have remains := rest (.of_leaves said (.refl seated.logged)) failed
      rcases none with missing | ⟨_, faulty, _⟩
      · rw [missing] at said
        obtain rfl : settings = .defaults := (Except.ok.inj said).symm
        rwa [ite_self]
      · rwa [faulty]
    · rw [removed] at failed
      rw [faultless]
      exact rest (.of_removed seated located found) failed
    · rw [removed] at failed
      cases failed
      have remains : Remains depths path world world settings :=
        .of_leaves said (.refl seated.logged)
      cases faulty : world.faults.remove with
      | some fault => exact remains
      | none =>
        obtain ⟨fault, refused⟩ := refused faulty
        rwa [said_of_unremovable refused said] at remains
  · rw [changeSettings_eq, if_neg resets] at failed
    simp only [resets, Bool.false_and, Bool.false_eq_true, if_false]
    exact .of_leaves said (assign_of_error seated failed)

section Confined

variable {paths : Path → Prop} {changed : Location → Prop}

theorem SettingsStore.works_removeFile (own : paths path) :
    (removeFile path).Only (Effect.WorksOn paths) :=
  .bind (works_removeIfPresent own) fun _ =>
    .bind ((only_log ..).quiet.mono fun _ quiet => quiet.worksOn paths) fun _ => .pure _

/-- **A command that fails** keeps all places but those of the settings file, its draft and the
log. -/
theorem App.confines_changeSettings_of_error (confined : Confined paths changed world)
    (own : paths path) (drafts : ∀ draft, draftPath path = .ok draft → paths draft)
    (failed : world.attempt (changeSettings arguments ⟨depths, path, some settings⟩)
      = (.error failure, later)) :
    Confines paths changed world later := by
  have assigned : ∀ {middle : World} {known : Settings}, Confines paths changed world middle →
      middle.attempt (assign arguments ⟨depths, path, some known⟩) = (.error failure, later) →
      Confines paths changed world later := by
    intro middle known confines ended
    rcases exists_of_assign_error ended with rfl | ⟨_, replaced⟩
    · exact confines
    · exact confines.trans (confines_replaceFile_of_error confines.confined drafts replaced)
  by_cases resets : arguments.resetSettings = true
  · have removes := confined.confines_run (works_removeFile own)
    rw [changeSettings_of_resets resets, attempt_bind] at failed
    cases removed : world.attempt (removeFile path) with
    | mk result middle =>
      rw [removed] at failed
      rw [show world.run (removeFile path).outcome = _ from removed] at removes
      cases result with
      | ok defaults => exact assigned removes failed
      | error other =>
        cases failed
        exact removes
  · rw [changeSettings_eq, if_neg resets] at failed
    exact assigned confined.confines_refl failed

end Confined

/-- **The ends of a run about settings**: an error, code 0, or code 1 where it has failed to change
them and has said so. -/
theorem App.settingsTask_cases {store : SettingsStore} {result : Except Failure Task}
    (ended : world.attempt (settingsTask arguments store) = (result, later)) :
    (∃ failure, result = .error failure) ∨ result = .ok (.finished 0)
      ∨ result = .ok (.finished 1)
        ∧ ∃ failure half, world.attempt (changeSettings arguments store) = (.error failure, half)
          ∧ later = (half.log ⟨.number Severity.error.number, mainLogger,
              "Failed to save settings: " ++ failure.message⟩).tell
                ("Error: unable to save settings: " ++ failure.message ++ "\n") := by
  unfold settingsTask at ended
  rw [attempt_orElse, attempt_bind] at ended
  cases changed : world.attempt (changeSettings arguments store) with
  | mk outcome half =>
    rw [changed] at ended
    cases outcome with
    | ok _ =>
      simp only [attempt_bind] at ended
      rcases attempt_printLine_cases store.path.looseText half with ⟨_, printed⟩ | ⟨_, refused⟩
      · rw [printed] at ended
        cases ended
        exact .inr (.inl rfl)
      · rw [refused] at ended
        cases ended
        exact .inl ⟨_, rfl⟩
    | error failure =>
      by_cases refused : failure.isSystem = true
      · simp only [if_pos refused] at ended
        cases ended
        exact .inr (.inr ⟨rfl, failure, half, rfl, rfl⟩)
      · simp only [if_neg refused] at ended
        cases ended
        exact .inl ⟨_, rfl⟩

/-- A failure is no exit code. -/
theorem App.ofOutcome_error_ne_exit (failure : Failure) (code : Nat) :
    Ending.ofOutcome (.error failure) ≠ .exit code := by
  unfold Ending.ofOutcome
  split <;> simp_all

/-- A run that exits has prepared itself. -/
theorem App.exists_prepared {words : List String} {dialog rest : Dialog} {code : Nat}
    (parsed : CommandLine.parseArguments words = .ok arguments)
    (ended : App.run words environment dialog world = (.exit code, rest, later)) :
    ∃ task ready, world.attempt (prepare arguments environment) = (.ok task, ready) := by
  simp only [run_of_ok parsed, runWith_eq] at ended
  cases prepared : world.attempt (prepare arguments environment) with
  | mk result ready =>
    cases result with
    | ok task => exact ⟨task, ready, rfl⟩
    | error failure =>
      rw [prepared] at ended
      exact absurd (congrArg Prod.fst ended) (ofOutcome_error_ne_exit failure code)

/-- **What a new store loads after a command that failed**: what it would have loaded before, unless
the command has removed the file; then the defaults. -/
theorem App.loadedSettings_of_failed {words : List String} {dialog rest : Dialog}
    (parsed : CommandLine.parseArguments words = .ok arguments)
    (about : isAboutSettings arguments = true)
    (ended : App.run words environment dialog world = (.exit 1, rest, later)) :
    ∃ settings, (world.attempt (loadedSettings environment)).1 = .ok settings
      ∧ (later.attempt (loadedSettings environment)).1
        = .ok (settingsLeft arguments world.faults settings) := by
  obtain ⟨task, ready, prepared⟩ := exists_prepared parsed ended
  have whole := prepared
  rw [prepare_eq] at whole
  obtain ⟨⟨path, settings⟩, begun, out, went⟩ := exists_of_attempt_bind whole
  have found := exists_setOut out
  simp only [goOn, if_pos about] at went
  simp only [run_of_ok parsed, runWith_eq, prepared] at ended
  rcases settingsTask_cases went with ⟨_, other⟩ | other | ⟨finished, failure, half, changed, rfl⟩
  · cases other
  · -- a run that has printed ends with code 0
    cases other
    cases ended
  cases finished
  cases ended
  have remains := changeSettings_of_error found.seated found.said changed
  have noted := remains.leaves (leaves_log remains.logged
    ⟨.number Severity.error.number, mainLogger, "Failed to save settings: " ++ failure.message⟩)
  refine ⟨settings, found.loaded, ?_⟩
  rw [← found.faults]
  generalize half.log _ = logged at noted went ⊢
  have told : Remains environment.depths path begun
      (logged.tell ("Error: unable to save settings: " ++ failure.message ++ "\n"))
      (settingsLeft arguments begun.faults settings) :=
    ⟨noted.said, noted.directories, noted.logged⟩
  have user : (logged.tell ("Error: unable to save settings: " ++ failure.message
      ++ "\n")).tree.privileged = begun.tree.privileged := sameUser_of_attempt went
  rw [found.loads_again told.directories, user]
  exact told.said

/-- **A command about settings that fails keeps them exactly if** it does not go back to the
defaults first, or cannot, or these were the settings: the file is removed before the assignments
are made, and a save that fails does not bring it back. -/
theorem App.failed_command_keeps_settings_iff {words : List String} {dialog rest : Dialog}
    (parsed : CommandLine.parseArguments words = .ok arguments)
    (about : isAboutSettings arguments = true)
    (ended : App.run words environment dialog world = (.exit 1, rest, later)) :
    (later.attempt (loadedSettings environment)).1 = (world.attempt (loadedSettings environment)).1
      ↔ arguments.resetSettings = false ∨ world.faults.remove ≠ none
        ∨ (world.attempt (loadedSettings environment)).1 = .ok .defaults := by
  obtain ⟨settings, before, after⟩ := loadedSettings_of_failed parsed about ended
  rw [before, after, settingsLeft]
  cases arguments.resetSettings <;> cases world.faults.remove <;> simp [eq_comm]

/-- Whether a run exits with a code can be computed. -/
instance App.decidableExit : (ending : Ending) → (code : Nat) → Decidable (ending = .exit code)
  | .exit other, code => decidable_of_iff (other = code) ⟨congrArg _, Ending.exit.inj⟩
  | .stopped _, _ => .isFalse nofun
  | .failed _, _ => .isFalse nofun

/-- A user whose settings file names a release, on a disk where no file can be moved over another.
-/
def exampleCrowded : World :=
  { World.empty with
    tree := .mk [
      (["config", "MoveReleaseFetcher", "settings.json"],
        .file (Text.encode "\x7b\"release_tag\": \"v1\"\x7d") 0o644),
      (["config", "MoveReleaseFetcher"], .directory), (["config"], .directory)] false
    faults := { FileFaults.none with
      rename := some (.system (.numbered 28 "No space left on device" [])) } }

/-- Back to the defaults, and then a name. -/
def exampleLoss : SettingsCommand :=
  ⟨[.reset, .assign "asset_name=tool" .assetName (.text (Text.LooseText.ofString "tool")) rfl],
    nofun⟩

/-- A run that exits, its parts taken together. -/
theorem App.eq_of_exits {words : List String} {dialog : Dialog} {code : Nat}
    (exits : (App.run words environment dialog world).1 = .exit code) :
    App.run words environment dialog world
      = (.exit code, (App.run words environment dialog world).2.1,
        (App.run words environment dialog world).2.2) := by
  rw [← exits]

theorem App.exampleLoss_exits :
    (App.run ["--reset-settings", "--set", "asset_name=tool"] exampleEnvironment default
      exampleCrowded).1 = .exit 1 := by
  decide +kernel

/-- A run that goes back to the defaults, and then cannot save a name. -/
theorem App.failed_command_keeps_settings_iff_crowded :
    ∃ arguments,
      CommandLine.parseArguments ["--reset-settings", "--set", "asset_name=tool"] = .ok arguments
      ∧ isAboutSettings arguments = true
      ∧ (App.run ["--reset-settings", "--set", "asset_name=tool"] exampleEnvironment default
          exampleCrowded).1 = .exit 1
      ∧ (((App.run ["--reset-settings", "--set", "asset_name=tool"] exampleEnvironment default
            exampleCrowded).2.2.attempt (loadedSettings exampleEnvironment)).1
          = (exampleCrowded.attempt (loadedSettings exampleEnvironment)).1
        ↔ arguments.resetSettings = false ∨ exampleCrowded.faults.remove ≠ none
          ∨ (exampleCrowded.attempt (loadedSettings exampleEnvironment)).1 = .ok .defaults) := by
  obtain ⟨arguments, parsed, resets, given, _⟩ := CommandLine.parseArguments_words exampleLoss
  have about := CommandLine.isAboutSettings_of_command exampleLoss resets given
  have ended := eq_of_exits exampleLoss_exits
  exact ⟨arguments, parsed, about, exampleLoss_exits,
    App.failed_command_keeps_settings_iff parsed about ended⟩

/-- **A run that fails loses the settings**: the release that the file named is the default again.
-/
theorem App.failed_command_loses_settings :
    (App.run ["--reset-settings", "--set", "asset_name=tool"] exampleEnvironment default
        exampleCrowded).1 = .exit 1
      ∧ (exampleCrowded.attempt (loadedSettings exampleEnvironment)).1.toOption.map
          (fun settings => (settings.value .releaseTag).shown) = some "v1"
      ∧ ((App.run ["--reset-settings", "--set", "asset_name=tool"] exampleEnvironment default
          exampleCrowded).2.2.attempt (loadedSettings exampleEnvironment)).1 = .ok .defaults
      ∧ (Settings.defaults.value .releaseTag).shown = "" := by
  obtain ⟨arguments, parsed, resets, given, _⟩ := CommandLine.parseArguments_words exampleLoss
  have about := CommandLine.isAboutSettings_of_command exampleLoss resets given
  have read : CommandLine.parseArguments ["--reset-settings", "--set", "asset_name=tool"]
      = .ok arguments := parsed
  obtain ⟨settings, _, after⟩ := loadedSettings_of_failed read about (eq_of_exits exampleLoss_exits)
  refine ⟨exampleLoss_exits, by decide +kernel, ?_, by decide +kernel⟩
  rw [after, settingsLeft, resets]
  rfl

end Failing

end AssetFetch
