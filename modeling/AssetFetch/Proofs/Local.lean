/-
**What a run does before it turns to the user or the service.**

* `Effect.IsLocal`: effects on files, the log and the terminal's messages: no keyring, no request,
  and nothing printed;
* `Effect.IsKeyless`: effects that do not use the keyring;
* `local_readFile` … `local_changeSettings`: everything that a settings store does asks for nothing
  else than local effects, and so does setting out (`App.local_setOut`);
* `App.only_fetchTask`: finding out what to fetch makes directories and tells the user, and
  `App.keyless_prepare`: **preparing a run does without the keyring**.
-/

import AssetFetch.Proofs.Fetching
import AssetFetch.Proofs.Preparing

namespace AssetFetch

/-! ### Kinds of effects -/

namespace Effect

/-- Effects on the files, the log and the messages to the user. -/
def IsLocal : Effect → Prop
  | file _ => True
  | log _ => True
  | setUpLog _ _ => True
  | openLog _ _ => True
  | tell _ => True
  | _ => False

/-- Effects that do not use the keyring. -/
def IsKeyless : Effect → Prop
  | keyring _ => False
  | _ => True

theorem IsLocal.of_directories {effect : Effect} (directories : World.IsDirectoryWork effect) :
    effect.IsLocal := by
  cases effect with
  | file action => trivial
  | _ => exact directories.elim

theorem IsLocal.keyless {effect : Effect} (isLocal : effect.IsLocal) : effect.IsKeyless := by
  cases effect with
  | keyring action => exact isLocal.elim
  | _ => trivial

theorem IsPlain.keyless {effect : Effect} (plain : effect.IsPlain) : effect.IsKeyless := by
  cases effect with
  | keyring action => exact plain.elim
  | _ => trivial

end Effect

namespace Action.Only

variable {α β : Type} {kind : Effect → Prop} {action : Action α}

theorem isLocal (directories : Only World.IsDirectoryWork action) : Only Effect.IsLocal action :=
  directories.mono fun _ => Effect.IsLocal.of_directories

theorem keyless (isLocal : Only Effect.IsLocal action) : Only Effect.IsKeyless action :=
  isLocal.mono fun _ => Effect.IsLocal.keyless

theorem keyless_of_plain (plain : Only Effect.IsPlain action) : Only Effect.IsKeyless action :=
  plain.mono fun _ => Effect.IsPlain.keyless

/-- What becomes of a result asks for nothing. -/
theorem discard (only : Only kind action) : Only kind (discard action) :=
  .bind only fun _ => .pure _

end Action.Only

/-! ### Lines and files -/

theorem local_log (severity : Severity) (logger message : String) :
    (log severity logger message).Only Effect.IsLocal :=
  .ofProgram (.perform trivial)

theorem local_tellLine (text : String) : (tellLine text).Only Effect.IsLocal :=
  .ofProgram (.perform trivial)

namespace Files

theorem local_removeIfPresent (path : Path) : (removeIfPresent path).Only Effect.IsLocal :=
  .orElse (.attempt (.perform trivial)) fun _ => .ite (.pure _) (.throw _)

theorem local_exists? (path : Path) : (exists? path).Only Effect.IsLocal :=
  .orElse (.bind (.discard (.attempt (.perform trivial))) fun _ => .pure _) fun _ =>
    .ite (.pure _) (.throw _)

end Files

open Files

/-! ### The settings store -/

namespace SettingsStore

open Program

theorem local_readFile (depths : Json.Depths) (path : Path) :
    (readFile depths path).Only Effect.IsLocal := by
  refine .bind (local_exists? path) fun there => .ite (.bind (.ofProgram (.perform trivial)) ?_)
    (.pure _)
  intro result
  cases result with
  | ok bytes => exact .ofExcept _
  | error failure => exact .ite (.pure _) (.throw _)

theorem local_writeDraft (depths : Json.Depths) (draft : Path) (settings : Settings) :
    (writeDraft depths draft settings).Only Effect.IsLocal :=
  .bind (.attempt (.perform trivial)) fun _ => .bind (.ofExcept _) fun _ =>
    .bind (.attempt (.perform trivial)) fun _ => .ite (.throw _) (.pure _)

theorem local_discarding (draft : Path) (failure : Failure) :
    (discarding draft failure).Only Effect.IsLocal := by
  rw [discarding_eq]
  exact .ite (.bind (local_removeIfPresent draft) fun _ => .throw _) (.throw _)

theorem local_replaceFile (depths : Json.Depths) (path : Path) (settings : Settings) :
    (replaceFile depths path settings).Only Effect.IsLocal := by
  rw [replaceFile_eq]
  refine .bind (World.only_ensureDirectory _).isLocal fun _ => .bind (.ofExcept _) fun draft => ?_
  refine .bind (.orElse ?_ (local_discarding draft)) fun _ => local_log ..
  exact .bind (local_writeDraft depths draft settings) fun _ => .attempt (.perform trivial)

theorem local_removeFile (path : Path) : (removeFile path).Only Effect.IsLocal :=
  .bind (local_removeIfPresent path) fun _ => .bind (local_log ..) fun _ => .pure _

variable {kind : Effect → Prop} (store : SettingsStore)

/-- What is remembered asks for no more. -/
theorem only_remembering {α : Type} {action : Action α} (only : action.Only kind)
    (settings : α → Settings) : (store.remembering action settings).AllAsked kind :=
  AllAsked.bind only fun result =>
    match result with
    | .ok _ => .done _
    | .error _ => .done _

theorem local_load : store.load.AllAsked Effect.IsLocal :=
  only_remembering store (local_readFile store.depths store.path) _

theorem local_save (settings : Settings) : (store.save settings).AllAsked Effect.IsLocal :=
  only_remembering store (local_replaceFile store.depths store.path settings) _

theorem local_reset : store.reset.AllAsked Effect.IsLocal :=
  only_remembering store (local_removeFile store.path) _

theorem local_current : store.current.AllAsked Effect.IsLocal := by
  unfold current
  split
  · exact .done _
  · exact local_load store

theorem local_update (changes : List (Text.LooseText × Value)) :
    (store.update changes).AllAsked Effect.IsLocal := by
  unfold update
  split
  · exact .done _
  · refine .bind (local_current store) fun found => ?_
    split
    · exact .done _
    · rename_i settings known
      refine .bind (local_save known _) fun saved => ?_
      split
      · exact .done _
      · exact .done _

end SettingsStore

theorem local_directLog (level : Value) (file : Option Path) (console : Bool) :
    (directLog level file console).Only Effect.IsLocal := by
  refine .bind (.ofExcept _) fun level => .bind (.ofProgram (.perform trivial)) fun _ => ?_
  cases file with
  | none => exact .pure _
  | some path =>
    exact .bind (World.only_ensureDirectory _).isLocal fun _ =>
      .bind (.attempt (.perform trivial)) fun _ => .pure _

/-! ### Preparing -/

namespace App

variable (arguments : Arguments) (environment : Environment)

theorem local_assign (store : SettingsStore) : (assign arguments store).Only Effect.IsLocal := by
  unfold assign
  refine .ite ?_ (.pure _)
  exact .bind (.ofExcept _) fun _ => .bind (.ofProgram (store.local_update _)) fun _ =>
    .discard (.ofExcept _)

/-- **Changing the settings is local.** -/
theorem local_changeSettings (store : SettingsStore) :
    (changeSettings arguments store).Only Effect.IsLocal := by
  rw [changeSettings_eq]
  refine .ite (.bind (.ofProgram store.local_reset) fun _ => ?_) (local_assign arguments store)
  exact .bind (.discard (.ofExcept _)) fun _ => local_assign arguments _

/-- What follows where the settings could not be changed. -/
def answerFailure (failure : Failure) : Action Task :=
  if failure.isSystem then do
    log .error mainLogger ("Failed to save settings: " ++ failure.message)
    tellLine ("Error: unable to save settings: " ++ failure.message)
    return .finished 1
  else throw failure

theorem settingsTask_eq (store : SettingsStore) :
    settingsTask arguments store = (do
      changeSettings arguments store
      printLine store.path.looseText
      return .finished 0 : Action Task).orElse answerFailure :=
  rfl

theorem local_answerFailure (failure : Failure) :
    (answerFailure failure).Only Effect.IsLocal := by
  unfold answerFailure
  exact .ite (.bind (local_log ..) fun _ => .bind (local_tellLine _) fun _ => .pure _) (.throw _)

theorem keyless_settingsTask (store : SettingsStore) :
    (settingsTask arguments store).Only Effect.IsKeyless := by
  rw [settingsTask_eq]
  refine .orElse (.bind (local_changeSettings arguments store).keyless fun _ => ?_) fun failure =>
    (local_answerFailure failure).keyless
  exact .bind (.attempt (.perform trivial)) fun _ => .pure _

/-- **Setting out is local.** -/
theorem local_setOut : (setOut arguments environment).Only Effect.IsLocal :=
  .bind (AppPaths.only_settingsPath environment).isLocal fun path =>
    .bind (SettingsStore.local_readFile _ path) fun _ =>
      .bind (AppPaths.only_logPath environment).isLocal fun _ =>
        .bind (.discard (local_directLog ..)) fun _ => .pure _

theorem only_defaultDestination (settings : Settings) (asset : Value) :
    (defaultDestination environment settings asset).Only World.IsDirectoryWork := by
  refine .ite (.bind (.ofExcept _) fun _ => .ofExcept _) ?_
  exact .bind (AppPaths.only_downloadDirectory environment) fun _ => .ofExcept _

/-- **Finding out what to fetch** asks about directories, makes them and tells the user. -/
theorem only_fetchTask {kind : Effect → Prop}
    (directories : ∀ effect, World.IsDirectoryWork effect → kind effect)
    (told : ∀ text, kind (.tell text)) (settings : Settings) :
    (fetchTask arguments environment settings).Only kind := by
  have tells : ∀ text, (tellLine text).Only kind := fun text => .ofProgram (.perform (told _))
  refine .ite (.bind (tells _) fun _ => .pure _) (.ite (.pure _) (.ite ?_ ?_))
  · exact .bind (tells _) fun _ => .pure _
  · cases arguments.output with
    | value path => exact .bind (.pure _) fun _ => .pure _
    | blank => exact .bind (.pure _) fun _ => .pure _
    | absent =>
      refine .bind ((only_defaultDestination environment settings _).mono directories) fun _ => ?_
      exact .bind (.pure _) fun _ => .pure _

/-- **Preparing a run does without the keyring.** -/
theorem keyless_prepare : (prepare arguments environment).Only Effect.IsKeyless := by
  rw [prepare_eq]
  refine .bind (local_setOut arguments environment).keyless fun found => ?_
  exact .ite (keyless_settingsTask arguments _)
    (.ite (.pure _) (only_fetchTask arguments environment
      (fun _ directories => Effect.IsLocal.keyless (.of_directories directories))
      (fun _ => trivial) found.2))

end App

end AssetFetch
