/-
**Saving and resetting, also where they fail.**

* `SettingsStore.Seated`: the directory of a settings file is there, and the log is no file of its
  name;
* `SettingsStore.Leaves`: the settings file says what it said;
* `confines_replaceFile_of_error`: **a save that fails** has worked on its draft and made
  directories, and done nothing else (`exists_of_replaceFile_error`, `exists_discarded`), so that it
  leaves what the settings file says (`replaceFile_of_error`);
* `exists_moves`, `status_of_replaced`: a save that succeeds has moved a draft over the file, which
  then holds what is written of the settings;
* `attempt_removeIfPresent`, `removeFile_of_error`: what comes of a removal (`directories_erase`,
  `status_erase`), and that a reset that fails changes nothing.
-/

import AssetFetch.Proofs.Path
import AssetFetch.Proofs.Settings.Reading

namespace AssetFetch

/-! ### Files that can be read if they can be written -/

namespace FileTree

/-- A file that its owner may write is one that the owner may read. -/
def Legible (entry : Option Entry) : Prop :=
  ∀ content mode, entry = some (.file content mode) → isWritable mode = true →
    isReadable mode = true

theorem legible_none : Legible none := nofun

theorem legible_directory : Legible (some .directory) := nofun

theorem legible_file {content : Bytes} {mode : Nat} (readable : isReadable mode = true) :
    Legible (some (.file content mode)) := by
  rintro _ _ ⟨⟩ _
  exact readable

theorem legible_modeAfterWriting {content more : Bytes} {mode : Nat} (privileged : Bool)
    (legible : Legible (some (.file content mode))) :
    Legible (some (.file more (modeAfterWriting privileged mode))) := by
  obtain ⟨reads, writes⟩ := owner_modeAfterWriting privileged mode
  rintro _ _ ⟨⟩ writable
  exact reads.trans (legible content mode rfl (writes.symm.trans writable))

/-- What may be written may be read, if it is legible. -/
theorem Legible.mayRead {tree : FileTree} {content : Bytes} {mode : Nat}
    (legible : Legible (some (.file content mode))) (writable : tree.mayWrite mode = true) :
    tree.mayRead mode = true := by
  unfold FileTree.mayRead FileTree.mayWrite at *
  rcases Bool.or_eq_true_iff.mp writable with user | owner
  · rw [user, Bool.true_or]
  · rw [legible content mode rfl owner, Bool.or_true]

theorem mayRead_modeWith (tree : FileTree) (privileged : Bool) (bytes : Bytes) (mode : Nat) :
    tree.mayRead (modeWith privileged bytes mode) = tree.mayRead mode := by
  rw [mayRead, (owner_modeWith privileged bytes mode).1, mayRead]

/-- A file that is opened from its start is empty, and can be read where one that can be written can
be. -/
theorem exists_of_overwritten {tree after : FileTree} {path : Path} {place : Location}
    (opened : tree.openForWriting path false = .ok (place, after)) :
    tree.Accepts path place
      ∧ ∃ mode, (Legible (tree.get? place) →
          Legible (some (.file [] mode)) ∧ tree.mayRead mode = true)
        ∧ after = tree.put place (.file [] mode) := by
  obtain ⟨located, free, _⟩ := exists_of_openForWriting opened
  refine ⟨⟨located, free⟩, ?_⟩
  unfold openForWriting at opened
  simp only [located] at opened
  cases there : tree.get? place with
  | none =>
    simp only [there] at opened
    cases opened
    have readable : isReadable (newMode plainMode) = true := by decide
    exact ⟨_, fun _ => ⟨legible_file readable, mayRead_of_readable readable⟩, rfl⟩
  | some entry =>
    cases entry with
    | directory => exact absurd there free
    | file content mode =>
      simp only [there, Bool.false_eq_true, if_false] at opened
      split at opened
      · cases opened
      · rename_i writable
        cases opened
        refine ⟨_, fun legible => ⟨legible_modeAfterWriting tree.privileged legible, ?_⟩, rfl⟩
        rw [mayRead, (owner_modeAfterWriting tree.privileged mode).1, ← mayRead]
        exact legible.mayRead (by simpa using writable)

end FileTree

namespace SettingsStore

open FileTree Files World

variable {depths : Json.Depths} {path draft : Path} {settings : Settings} {world later : World}
  {failure : Failure}

/-! ### What a store remembers -/

/-- **A store remembers what an action gives**, and goes on with it. -/
theorem bind_remembering {α β : Type} (store : SettingsStore) (action : Action α)
    (settings : α → Settings) (next : α → SettingsStore → Action β) :
    (do
      let remembered ← Action.ofProgram (store.remembering action settings)
      let value ← Action.ofExcept remembered.1
      next value remembered.2)
    = (do
      let value ← action
      next value { store with known := some (settings value) }) := by
  apply ExceptT.ext
  simp only [remembering, Action.ofProgram, Action.outcome, ExceptT.run_bind, ExceptT.run_lift,
    bind_assoc, map_eq_pure_bind]
  congr
  funext result
  cases result <;> rfl

/-- What an action gives is remembered; a failure leaves what is known. -/
theorem run_remembering_eq {α : Type} (store : SettingsStore) (action : Action α)
    (settings : α → Settings) (world : World) :
    world.run (store.remembering action settings)
      = match world.attempt action with
        | (.ok value, later) => ((.ok value, { store with known := some (settings value) }), later)
        | (.error failure, later) => ((.error failure, store), later) := by
  have outcome : world.run action.outcome = world.attempt action := rfl
  rw [remembering, run_bind, outcome]
  cases world.attempt action with
  | mk result later => cases result <;> rfl

/-! ### The draft beside the file -/

section Names

theorem draftPath_eq_ok_iff :
    draftPath path = .ok draft
      ↔ path.name ≠ ""
        ∧ draft = path.sibling (path.finalName ++ Text.LooseText.ofString ".tmp") := by
  unfold draftPath
  by_cases unnamed : path.name = ""
  · rw [if_pos (beq_iff_eq.mpr unnamed)]
    exact ⟨nofun, fun both => absurd unnamed both.1⟩
  · rw [if_neg (mt beq_iff_eq.mp unnamed)]
    exact ⟨fun same => ⟨unnamed, (Except.ok.inj same).symm⟩, fun both => congrArg _ both.2.symm⟩

theorem bytes_of_draftPath (drafted : draftPath path = .ok draft) :
    draft.fileName.bytes = path.fileName.bytes ++ Text.encode ".tmp" := by
  obtain ⟨_, rfl⟩ := draftPath_eq_ok_iff.mp drafted
  rw [Path.fileName, Path.finalName_sibling, Text.LooseText.fileName, Text.LooseText.bytes_append,
    Text.LooseText.bytes_ofString]
  rfl

theorem parent_of_draftPath (drafted : draftPath path = .ok draft) :
    draft.parent = path.parent := by
  obtain ⟨_, rfl⟩ := draftPath_eq_ok_iff.mp drafted
  exact Path.parent_sibling ..

theorem name_draft_ne (drafted : draftPath path = .ok draft) :
    draft.fileName ≠ path.fileName := by
  intro same
  have lengths := congrArg (·.bytes.length) same
  simp only [bytes_of_draftPath drafted, List.length_append] at lengths
  have more : (Text.encode ".tmp").length = 4 := by decide +kernel
  omega

end Names

/-! ### What is done to the draft -/

/-- The settings file says what it said, no directory is lost, and the log is no file of its name.
-/
structure Leaves (path : Path) (before after : World) : Prop where
  same : SaysSame path before.tree after.tree
  directories : ∀ place, before.tree.get? place = some .directory →
    after.tree.get? place = some .directory
  logged : ∀ place ∈ after.logFile, place.getLast? ≠ some path.fileName

theorem Leaves.refl (logged : ∀ place ∈ world.logFile, place.getLast? ≠ some path.fileName) :
    Leaves path world world :=
  ⟨.refl _ _, fun _ there => there, logged⟩

theorem Leaves.trans {first second third : World} (left : Leaves path first second)
    (right : Leaves path second third) : Leaves path first third :=
  ⟨left.same.trans right.same,
    fun place there => right.directories place (left.directories place there), right.logged⟩

/-- The directory of a settings file is there, and the log is no file of its name. -/
structure Seated (path : Path) (world : World) : Prop where
  parent : world.tree.status path.parent = .ok .directory
  logged : ∀ place ∈ world.logFile, place.getLast? ≠ some path.fileName

namespace Seated

variable (seated : Seated path world)

include seated

/-- What the draft names, and the log, has another name than the settings file. -/
theorem confined (drafted : draftPath path = .ok draft) :
    Confined (· = draft) (·.getLast? ≠ some path.fileName) world where
  named := by
    rintro other rfl after _ location placed
    rw [getLast?_of_placed placed]
    exact fun same => name_draft_ne drafted (Option.some.inj same)
  logged := seated.logged

/-- What leaves the settings file leaves its directory. -/
theorem of_leaves (leaves : Leaves path world later) : Seated path later :=
  ⟨status_of_directories leaves.directories seated.parent, leaves.logged⟩

/-- What touches files of other names only leaves what the settings file says. -/
theorem leaves_of_confines {paths : Path → Prop}
    (confines : Confines paths (·.getLast? ≠ some path.fileName) world later) :
    Leaves path world later where
  same := saysSame_of_grownBut seated.parent confines.grown fun _ placed =>
    not_not_intro (getLast?_of_placed placed)
  directories := confines.grown.directories
  logged := confines.confined.logged

end Seated

section Works

variable {paths : Path → Prop}

theorem works_writeDraft (depths : Json.Depths) (own : paths draft) (settings : Settings) :
    (writeDraft depths draft settings).Only (Effect.WorksOn paths) := by
  refine .bind (.attempt (.perform own)) fun _ => .bind (.ofExcept _) fun _ => ?_
  exact .bind (.attempt (.perform own)) fun _ => .ite (.throw _) (.pure _)

theorem works_removeIfPresent (own : paths path) :
    (removeIfPresent path).Only (Effect.WorksOn paths) :=
  .orElse (.attempt (.perform own)) fun _ => .ite (.pure _) (.throw _)

end Works

/-- The draft is removed, if the operating system refused something, and the failure stays. -/
def discarding (draft : Path) (failure : Failure) : Action Unit := do
  if failure.isSystem then Files.removeIfPresent draft
  throw failure

theorem discarding_eq (draft : Path) (failure : Failure) :
    discarding draft failure
      = if failure.isSystem then (do removeIfPresent draft; throw failure) else throw failure := by
  unfold discarding
  split <;> rfl

theorem works_discarding {paths : Path → Prop} (own : paths draft) (failure : Failure) :
    (discarding draft failure).Only (Effect.WorksOn paths) := by
  rw [discarding_eq]
  exact .ite (.bind (works_removeIfPresent own) fun _ => .throw _) (.throw _)

theorem discarding_ne_ok (draft : Path) (failure : Failure) (world later : World) :
    world.attempt (discarding draft failure) ≠ (.ok (), later) := by
  rw [discarding_eq]
  intro ok
  split at ok
  · obtain ⟨_, _, _, thrown⟩ := exists_of_attempt_bind ok
    exact throw_ne_ok _ _ _ thrown
  · exact throw_ne_ok _ _ _ ok

/-- The draft is written and moved over the file, or removed again. -/
def moveDraft (depths : Json.Depths) (draft path : Path) (settings : Settings) : Action Unit :=
  (do writeDraft depths draft settings; rename draft path : Action Unit).orElse (discarding draft)

theorem replaceFile_eq (depths : Json.Depths) (path : Path) (settings : Settings) :
    replaceFile depths path settings = (do
      ensureDirectory path.parent
      let draft ← .ofExcept (draftPath path)
      moveDraft depths draft path settings
      AssetFetch.log .info logger ("Saved settings to " ++ path.text)) :=
  rfl

/-! ### Saves that fail -/

theorem attempt_rename_of_error {source target : Path}
    (failed : world.attempt (rename source target) = (.error failure, later)) : later = world := by
  have reply : world.attempt (rename source target) = world.onFile (.rename source target) := rfl
  rw [reply] at failed
  simp only [onFile] at failed
  split at failed
  · cases failed
    rfl
  · split at failed
    · cases failed
    · cases failed
      rfl

/-- Where a draft cannot be written or moved, it has been worked on, and nothing else. -/
theorem exists_discarded
    (failed : world.attempt (moveDraft depths draft path settings) = (.error failure, later)) :
    ∃ cause, (world.attempt (writeDraft depths draft settings)).2.attempt (discarding draft cause)
      = (.error failure, later) := by
  unfold moveDraft at failed
  rw [attempt_orElse, attempt_bind] at failed
  cases written : world.attempt (writeDraft depths draft settings) with
  | mk result half =>
    rw [written] at failed
    cases result with
    | error cause => exact ⟨cause, failed⟩
    | ok _ =>
      simp only at failed
      cases renamed : half.attempt (rename draft path) with
      | mk moved next =>
        rw [renamed] at failed
        cases moved with
        | ok _ => cases failed
        | error cause =>
          obtain rfl := attempt_rename_of_error renamed
          exact ⟨cause, failed⟩

section Confined

variable {paths : Path → Prop} {changed : Location → Prop}

/-- Where a draft cannot be written or moved, all places are kept but those of the draft and the
log. -/
theorem confines_moveDraft_of_error (confined : Confined paths changed world) (own : paths draft)
    (failed : world.attempt (moveDraft depths draft path settings) = (.error failure, later)) :
    Confines paths changed world later := by
  obtain ⟨cause, discarded⟩ := exists_discarded failed
  have first := confined.confines_run (works_writeDraft depths own settings)
  have second := first.confined.confines_run (works_discarding own cause)
  rw [show World.run _ (world.run (writeDraft depths draft settings).outcome).2 = _ from discarded]
    at second
  exact first.trans second

end Confined

/-- Where a draft cannot be written or moved, the settings file says what it said. -/
theorem Seated.moveDraft_of_error (seated : Seated path world)
    (drafted : draftPath path = .ok draft)
    (failed : world.attempt (moveDraft depths draft path settings) = (.error failure, later)) :
    Leaves path world later :=
  seated.leaves_of_confines (confines_moveDraft_of_error (seated.confined drafted) rfl failed)

/-- **Where a save fails** there are new directories, and then, if the directory of the file is
there, nothing else, or a draft that could not be moved. -/
theorem exists_of_replaceFile_error
    (failed : world.attempt (replaceFile depths path settings) = (.error failure, later)) :
    ∃ tree, world.tree.Grown tree ∧ (later = world.withTree tree
      ∨ tree.status path.parent = .ok .directory ∧ ∃ draft, draftPath path = .ok draft
        ∧ (world.withTree tree).attempt (moveDraft depths draft path settings)
          = (.error failure, later)) := by
  rw [replaceFile_eq, attempt_bind] at failed
  obtain ⟨tree, grownTo, grown⟩ := grownTo_ensureDirectory path.parent world
  refine ⟨tree, grown, ?_⟩
  cases ensured : world.attempt (ensureDirectory path.parent) with
  | mk result made =>
    rw [ensured] at failed grownTo
    obtain rfl : made = world.withTree tree := grownTo
    cases result with
    | error cause =>
      cases failed
      exact .inl rfl
    | ok _ =>
      cases drafted : draftPath path with
      | error cause =>
        rw [drafted] at failed
        cases failed
        exact .inl rfl
      | ok draft =>
        simp only [drafted] at failed
        rw [attempt_bind_of_ok (attempt_ofExcept ..), attempt_bind] at failed
        cases moved : (world.withTree tree).attempt (moveDraft depths draft path settings) with
        | mk result next =>
          rw [moved] at failed
          cases result with
          | ok _ =>
            simp only [attempt_log] at failed
            cases failed
          | error cause =>
            cases failed
            exact .inr ⟨status_of_ensured ensured, draft, rfl, moved⟩

/-- **A save that fails** keeps all places but those of its draft and the log. -/
theorem confines_replaceFile_of_error {paths : Path → Prop} {changed : Location → Prop}
    (confined : Confined paths changed world)
    (own : ∀ draft, draftPath path = .ok draft → paths draft)
    (failed : world.attempt (replaceFile depths path settings) = (.error failure, later)) :
    Confines paths changed world later := by
  obtain ⟨tree, grown, rest⟩ := exists_of_replaceFile_error failed
  have first : Confines paths changed world (world.withTree tree) :=
    confined.confines (.of_grown grown) confined.logged
  rcases rest with rfl | ⟨_, draft, drafted, moved⟩
  · exact first
  · exact first.trans (confines_moveDraft_of_error first.confined (own draft drafted) moved)

/-- **A save that fails leaves what the settings file says**, whatever it fails at. -/
theorem replaceFile_of_error (steady : Steady path world.tree)
    (logged : ∀ place ∈ world.logFile, place.getLast? ≠ some path.fileName)
    (failed : world.attempt (replaceFile depths path settings) = (.error failure, later)) :
    Leaves path world later := by
  obtain ⟨tree, grown, rest⟩ := exists_of_replaceFile_error failed
  have first : Leaves path world (world.withTree tree) :=
    ⟨steady tree grown, grown.directories, logged⟩
  rcases rest with rfl | ⟨parent, draft, drafted, moved⟩
  · exact first
  · have seated : Seated path (world.withTree tree) := ⟨parent, logged⟩
    exact first.trans (seated.moveDraft_of_error drafted moved)

/-! ### Saves that succeed -/

theorem eq_of_record {value : Value} (recorded : record depths settings = .ok value) :
    value = settings.toValue := by
  unfold record at recorded
  split at recorded
  · cases recorded
  · exact (Except.ok.inj recorded).symm

/-- What has been written into a draft that is complete. -/
theorem exists_written {half : World}
    (written : world.attempt (writeDraft depths draft settings) = (.ok (), half)) :
    ∃ place mode, world.tree.locate draft = .ok (.named place)
      ∧ world.tree.get? place ≠ some .directory
      ∧ (Legible (world.tree.get? place) → world.tree.mayRead mode = true)
      ∧ half = world.withTree (world.tree.put place (.file (savedBytes settings) mode))
      ∧ record depths settings = .ok settings.toValue
      ∧ Json.isComplete (Json.writes 0 "" settings.toValue) = true := by
  obtain ⟨_, opened, overwritten, others⟩ := exists_of_attempt_bind written
  obtain ⟨place, tree, reached, rfl⟩ := exists_of_attempt_overwrite overwritten
  obtain ⟨accepts, mode, legible, rfl⟩ := exists_of_overwritten reached
  cases shallow : record depths settings with
  | error cause =>
    rw [shallow] at others
    cases others
  | ok value =>
    obtain rfl := eq_of_record shallow
    have appended := attempt_append_put accepts [] (savedBytes settings) mode
    rw [shallow, attempt_bind_of_ok (attempt_ofExcept ..)] at others
    replace others := (attempt_bind_of_ok appended).symm.trans others
    cases complete : Json.isComplete (Json.writes 0 "" settings.toValue) with
    | false =>
      rw [complete] at others
      exact absurd others (throw_ne_ok _ _ _)
    | true =>
      rw [complete] at others
      cases others
      refine ⟨place, _, accepts.1, accepts.2, fun wish => ?_, rfl, rfl, rfl⟩
      exact (mayRead_modeWith ..).trans (legible wish).2

/-- What a rename puts in the place of another file. -/
theorem renamed_eq {tree after : FileTree} {place : Location} {entry : Entry}
    (located : tree.locate draft = .ok (.named place)) (there : tree.get? place = some entry)
    (names : draft.fileName ≠ path.fileName) (renamed : tree.rename draft path = .ok after) :
    ∃ location, tree.locate path = .ok (.named location)
      ∧ tree.get? location ≠ some .directory ∧ location ≠ place
      ∧ after = (tree.erase place).put location entry := by
  obtain ⟨placed, short⟩ := locate_eq_named_iff.mp located
  unfold FileTree.rename at renamed
  simp only [placed] at renamed
  cases target : tree.placeOf path with
  | error fault => simp [target] at renamed
  | ok found =>
    cases found with
    | fixed directory => simp [target] at renamed
    | named location =>
      have apart : location ≠ place := ne_of_name_ne names placed target
      have differ : (place == location) = false := beq_eq_false_iff_ne.mpr apart.symm
      have free : tree.get? location ≠ some .directory := by
        intro directory
        simp [target, there, short, directory] at renamed
      have moved : (if endsTooLong location then .error FileFault.nameTooLong
          else .ok ((tree.erase place).put location entry)) = Except.ok after := by
        cases found : tree.get? location with
        | none => simpa [target, there, short, differ, found] using renamed
        | some other =>
          cases other with
          | directory => exact absurd found free
          | file content mode => simpa [target, there, short, differ, found] using renamed
      split at moved
      · cases moved
      · rename_i fits
        cases moved
        have located : tree.locate path = .ok (.named location) :=
          locate_eq_named_iff.mpr ⟨target, by simpa using fits⟩
        exact ⟨location, located, free, apart, rfl⟩

/-- What a draft that is moved over a settings file finds. -/
structure Moves (path draft : Path) (tree : FileTree) (place location : Location) (mode : Nat) :
    Prop where
  parent : tree.status path.parent = .ok .directory
  drafted : draftPath path = .ok draft
  draft : tree.locate draft = .ok (.named place)
  spare : tree.get? place ≠ some .directory
  legible : Legible (tree.get? place) → tree.mayRead mode = true
  file : tree.locate path = .ok (.named location)
  free : tree.get? location ≠ some .directory
  apart : location ≠ place

namespace Moves

variable {tree : FileTree} {place location : Location} {mode : Nat}

/-- No directory is lost. -/
theorem directories (moves : Moves path draft tree place location mode) (entry : Entry) :
    ∀ other, tree.get? other = some .directory →
      ((tree.erase place).put location entry).get? other = some .directory := by
  intro other there
  have first : other ≠ location := fun same => moves.free (same ▸ there)
  have second : other ≠ place := fun same => moves.spare (same ▸ there)
  rw [get?_put_of_ne first, get?_erase_of_ne second, there]

/-- The path names what was moved. -/
theorem status (moves : Moves path draft tree place location mode) (entry : Entry) :
    ((tree.erase place).put location entry).status path = .ok entry := by
  have located := locate_of_directories (moves.directories entry) moves.file
  simp only [FileTree.status, located, get?_put_self (not_given_of_ne_directory moves.free)]

end Moves

theorem attempt_rename_of_ok {source target : Path}
    (ok : world.attempt (rename source target) = (.ok (), later)) :
    ∃ tree, world.tree.rename source target = .ok tree
      ∧ later = (world.withoutLogAt target).withTree tree := by
  have reply : world.attempt (rename source target) = world.onFile (.rename source target) := rfl
  rw [reply] at ok
  simp only [onFile] at ok
  split at ok
  · cases ok
  · split at ok
    · rename_i tree renamed
      cases ok
      exact ⟨tree, renamed, rfl⟩
    · cases ok

/-- A draft that is moved over the file has been written. -/
theorem exists_of_moveDraft_ok
    (moved : world.attempt (moveDraft depths draft path settings) = (.ok (), later)) :
    ∃ half, world.attempt (writeDraft depths draft settings) = (.ok (), half)
      ∧ half.attempt (rename draft path) = (.ok (), later) := by
  unfold moveDraft at moved
  rw [attempt_orElse] at moved
  split at moved
  · rename_i done
    cases moved
    obtain ⟨_, half, written, renamed⟩ := exists_of_attempt_bind done
    exact ⟨half, written, renamed⟩
  · exact absurd moved (discarding_ne_ok _ _ _ _)

/-- **A save that succeeds has moved everything that is written of the settings over the file.** -/
theorem exists_moves (logged : ∀ place ∈ world.logFile, place.getLast? ≠ some path.fileName)
    (ok : world.attempt (replaceFile depths path settings) = (.ok (), later)) :
    ∃ tree draft place location mode, world.tree.Grown tree
      ∧ Moves path draft tree place location mode
      ∧ record depths settings = .ok settings.toValue
      ∧ Json.isComplete (Json.writes 0 "" settings.toValue) = true
      ∧ later = ((world.withTree ((tree.erase place).put location
            (.file (savedBytes settings) mode))).run
          (logLine .info logger ("Saved settings to " ++ path.text))).2 := by
  rw [replaceFile_eq] at ok
  obtain ⟨_, made, ensured, rest⟩ := exists_of_attempt_bind ok
  have parent := status_of_ensured ensured
  obtain ⟨tree, grownTo, grown⟩ := grownTo_ensureDirectory path.parent world
  rw [ensured] at grownTo
  obtain rfl : made = world.withTree tree := grownTo
  cases drafted : draftPath path with
  | error cause =>
    rw [drafted] at rest
    cases rest
  | ok draft =>
    rw [drafted, attempt_bind_of_ok (attempt_ofExcept ..)] at rest
    obtain ⟨_, last, moved, told⟩ := exists_of_attempt_bind rest
    rw [attempt_log] at told
    obtain ⟨half, written, renamed⟩ := exists_of_moveDraft_ok moved
    obtain ⟨place, mode, draftAt, spare, legible, rfl, shallow, complete⟩ := exists_written written
    obtain ⟨after, swapped, rfl⟩ := attempt_rename_of_ok renamed
    have kept := directories_put spare (.file (savedBytes settings) mode)
    have there : (tree.put place (.file (savedBytes settings) mode)).get? place
        = some (.file (savedBytes settings) mode) :=
      get?_put_self (not_given_of_ne_directory spare)
    obtain ⟨location, file, free, apart, rfl⟩ := renamed_eq (locate_of_directories kept draftAt)
      there (name_draft_ne drafted) swapped
    refine ⟨tree, draft, place, location, mode, grown, ?_, shallow, complete, ?_⟩
    · have target := placeOf_of_sibling (parent_of_draftPath drafted)
        (locate_eq_named_iff.mp draftAt).1 kept
      obtain ⟨placed, short⟩ := locate_eq_named_iff.mp file
      have before : tree.placeOf path = .ok (.named location) := target.symm.trans placed
      have same : (tree.put place (.file (savedBytes settings) mode)).get? location
          = tree.get? location := get?_put_of_ne apart
      exact ⟨parent, drafted, draftAt, spare, legible, locate_eq_named_iff.mpr ⟨before, short⟩,
        same ▸ free, apart⟩
    · cases told
      have open' : ((world.withTree tree).withTree (tree.put place
          (.file (savedBytes settings) mode))).withoutLogAt path = _ := withoutLogAt_of_named logged
      rw [withTree_tree, open', erase_put]
      rfl

/-! ### The log behind it -/

/-- A line for the log leaves what the settings file says. -/
theorem leaves_log (logged : ∀ place ∈ world.logFile, place.getLast? ≠ some path.fileName)
    (record : LogLine) : Leaves path world (world.log record) := by
  obtain ⟨logFile, same | ⟨location, bytes, opened, same⟩⟩ := world.log_leaves record
  · refine ⟨?_, ?_, logFile ▸ logged⟩
    · rw [same]
      exact .refl _ _
    · rw [same]
      exact fun _ there => there
  · refine ⟨?_, ?_, logFile ▸ logged⟩
    · rw [same]
      refine saysSame_appendAt bytes fun place placed same => logged location opened ?_
      rw [← same]
      exact getLast?_of_placed placed
    · rw [same]
      exact fun place there => ((sameShape_appendAt bytes).directory_iff place).mpr there

/-- **A save that succeeds makes the path name what is written of the settings.** -/
theorem status_of_replaced (logged : ∀ place ∈ world.logFile, place.getLast? ≠ some path.fileName)
    (legible : ∀ after, world.tree.Grown after → ∀ draft, draftPath path = .ok draft →
      ∀ place, after.locate draft = .ok (.named place) → Legible (after.get? place))
    (ok : world.attempt (replaceFile depths path settings) = (.ok (), later)) :
    ∃ mode, later.tree.mayRead mode = true
      ∧ later.tree.status path = .ok (.file (savedBytes settings) mode) := by
  obtain ⟨tree, draft, place, location, mode, grown, moves, _, _, same⟩ := exists_moves logged ok
  have user : later.tree.privileged = tree.privileged := same ▸ sameUser_run ..
  refine ⟨mode, ?_, ?_⟩
  · rw [mayRead, user, ← mayRead]
    exact moves.legible (legible tree grown draft moves.drafted place moves.draft)
  have there := moves.status (.file (savedBytes settings) mode)
  generalize (tree.erase place).put location (.file (savedBytes settings) mode) = swapped
    at there same
  have kept : SaysSame path swapped later.tree := by
    rw [same, run_logLine]
    have still : ∀ place ∈ (world.withTree swapped).logFile, place.getLast? ≠ some path.fileName :=
      logged
    exact (leaves_log still _).same
  exact kept.status_of_file there

/-! ### Resets -/

/-- Where a file is removed no directory is lost. -/
theorem directories_erase {tree : FileTree} {place : Location} {content : Bytes} {mode : Nat}
    (found : tree.get? place = some (.file content mode)) :
    ∀ other, tree.get? other = some .directory →
      (tree.erase place).get? other = some .directory := by
  intro other there
  have apart : other ≠ place := by
    rintro rfl
    rw [found] at there
    cases there
  rw [get?_erase_of_ne apart, there]

/-- Nothing is named by the path of a file that has been removed. -/
theorem status_erase {tree : FileTree} {place : Location} {content : Bytes} {mode : Nat}
    (located : tree.locate path = .ok (.named place))
    (found : tree.get? place = some (.file content mode)) :
    (tree.erase place).status path = .error .notFound := by
  have gone : (tree.erase place).get? place = none :=
    get?_erase_self (not_given_of_ne_directory (by rw [found]; nofun))
  simp only [FileTree.status, locate_of_directories (directories_erase found) located, gone]

theorem status_of_unremoved {tree : FileTree} (removed : tree.remove path = .error .notFound) :
    tree.status path = .error .notFound := by
  unfold FileTree.remove at removed
  cases located : tree.locate path with
  | error fault =>
    simp only [located] at removed
    cases removed
    simp only [FileTree.status, located]
  | ok place =>
    cases place with
    | fixed location => simp [located] at removed
    | named location =>
      simp only [located] at removed
      cases found : tree.get? location with
      | none => simp only [FileTree.status, located, found]
      | some entry => cases entry <;> simp [found] at removed

/-- The outcome of a removal, and the world after it. -/
theorem attempt_removeIfPresent (path : Path) (world : World) :
    (world.attempt (removeIfPresent path) = (.ok (), world)
        ∧ (world.tree.status path = .error .notFound
          ∨ ∃ fault, world.faults.remove = some fault ∧ fault.isNotFound = true))
      ∨ (∃ location content mode, world.tree.locate path = .ok (.named location)
        ∧ world.tree.get? location = some (.file content mode) ∧ world.faults.remove = none
        ∧ world.attempt (removeIfPresent path)
          = (.ok (), (world.withoutLogAt path).withTree (world.tree.erase location)))
      ∨ ∃ failure, failure.isNotFound = false
        ∧ (world.faults.remove = none → ∃ fault, world.tree.remove path = .error fault)
        ∧ world.attempt (removeIfPresent path) = (.error failure, world) := by
  have reply : world.attempt (remove path) = world.onFile (.remove path) := rfl
  unfold removeIfPresent
  rw [attempt_orElse, reply]
  simp only [onFile]
  cases faulty : world.faults.remove with
  | some fault =>
    by_cases missing : fault.isNotFound = true
    · simp only [if_pos missing]
      exact .inl ⟨rfl, .inr ⟨fault, rfl, missing⟩⟩
    · simp only [if_neg missing]
      exact .inr (.inr ⟨fault, Bool.eq_false_iff.mpr missing,
        fun free => absurd free (Option.some_ne_none fault), rfl⟩)
  | none =>
    cases removed : world.tree.remove path with
    | ok tree =>
      obtain ⟨location, content, mode, located, found, rfl⟩ := remove_eq_ok_iff.mp removed
      exact .inr (.inl ⟨location, content, mode, located, found, rfl, rfl⟩)
    | error fault =>
      by_cases missing : (Failure.ofFile [path] fault).isNotFound = true
      · simp only [if_pos missing]
        refine .inl ⟨rfl, .inl ?_⟩
        obtain rfl : fault = .notFound := by
          cases fault <;> first | rfl | cases missing
        exact status_of_unremoved removed
      · simp only [if_neg missing]
        exact .inr (.inr ⟨_, Bool.eq_false_iff.mpr missing, fun _ => ⟨fault, rfl⟩, rfl⟩)

theorem attempt_removeFile (path : Path) (world : World) :
    world.attempt (removeFile path)
      = match world.attempt (removeIfPresent path) with
        | (.ok _, later) =>
          (.ok .defaults, (later.run (logLine .info logger "Settings reset to defaults")).2)
        | (.error failure, later) => (.error failure, later) := by
  unfold removeFile
  rw [attempt_bind]
  cases world.attempt (removeIfPresent path) with
  | mk result later =>
    cases result with
    | ok _ =>
      simp only
      rw [attempt_bind_of_ok (attempt_log ..)]
      rfl
    | error failure => rfl

/-- **A reset that fails changes nothing.** -/
theorem removeFile_of_error (failed : world.attempt (removeFile path) = (.error failure, later)) :
    later = world := by
  rw [attempt_removeFile] at failed
  rcases attempt_removeIfPresent path world with
    ⟨removed, _⟩ | ⟨_, _, _, _, _, _, removed⟩ | ⟨_, _, _, removed⟩
  · rw [removed] at failed
    cases failed
  · rw [removed] at failed
    cases failed
  · rw [removed] at failed
    cases failed
    rfl

end SettingsStore

end AssetFetch
