/-
**What a failed save leaves behind.**

Settings are written into a draft beside their file. Opening the draft, putting the settings into
words, writing them and moving the draft may all fail, and with any failure. The draft is removed
after some of these failures only.

* `Mishaps.Opens`: the draft is made before anything goes wrong; `Drafted`, `drafted_writeDraft`:
  what comes of the draft by then, whatever else goes wrong;
* `exists_abandoned`: **a failed save has made its draft or nothing**, and has tried to remove it if
  the operating system refused something;
* `save_cleans_up_iff`: **it leaves the settings file as it was, and no draft exactly if the failure
  is one of the operating system or the draft was not made**.
-/

import AssetFetch.Proofs.Mishaps
import AssetFetch.Proofs.Settings.Replacing

namespace AssetFetch

open FileTree Files World

variable {depths : Json.Depths} {path draft : Path} {settings : Settings} {world later : World}
  {failure : Failure} {mishaps : Mishaps}

/-- A draft is made: it can be opened, and no mishap is earlier than that. -/
def Mishaps.Opens (mishaps : Mishaps) (tree : FileTree) (draft : Path) : Prop :=
  (∃ opened, tree.openForWriting draft false = .ok opened)
    ∧ ∀ failure, mishaps.opening ≠ some (failure, false)

namespace SettingsStore

/-! ### What has become of the draft -/

section Drafts

/-- How far a draft has come when something goes wrong: it has not been made and nothing has
changed, or it has been made. -/
inductive Drafted (mishaps : Mishaps) (draft : Path) (world : World) : World → Prop
  | unmade (unmade : ¬ mishaps.Opens world.tree draft) : Drafted mishaps draft world world
  | made (made : mishaps.Opens world.tree draft) (place : Location) (content : Bytes) (mode : Nat)
      (accepts : world.tree.Accepts draft place) :
      Drafted mishaps draft world (world.withTree (world.tree.put place (.file content mode)))

/-- A file is opened for writing, or nothing changes. -/
theorem attempt_overwrite (draft : Path) (world : World) :
    (∃ place content mode, world.tree.Accepts draft place
      ∧ world.tree.openForWriting draft false
        = .ok (place, world.tree.put place (.file content mode))
      ∧ world.attempt (overwrite draft)
        = (.ok (), world.withTree (world.tree.put place (.file content mode))))
    ∨ (∀ opened, world.tree.openForWriting draft false ≠ .ok opened)
      ∧ ∃ cause, world.attempt (overwrite draft) = (.error cause, world) := by
  cases opened : world.tree.openForWriting draft false with
  | error fault => exact .inr ⟨nofun, _, attempt_overwrite_of_closed opened⟩
  | ok found =>
    obtain ⟨place, tree⟩ := found
    obtain ⟨located, free, content, mode, rfl⟩ := exists_of_openForWriting opened
    exact .inl ⟨place, content, mode, ⟨located, free⟩, rfl, attempt_overwrite_of_opened opened⟩

/-- What becomes of a draft while it is opened: if that succeeds it is made. -/
theorem drafted_overwrite (mishaps : Mishaps) (draft : Path) (world : World) :
    Drafted mishaps draft world (world.attempt (mishaps.uponAction (overwrite draft))).2
      ∧ ((world.attempt (mishaps.uponAction (overwrite draft))).1 = .ok () →
        mishaps.Opens world.tree draft) := by
  rw [mishaps.uponAction_overwrite]
  rcases attempt_overwrite draft world with
    ⟨place, content, mode, accepts, opened, done⟩ | ⟨closed, cause, failed⟩
  · rcases happens : mishaps.opening with _ | ⟨failure, _ | _⟩
    · have opens : mishaps.Opens world.tree draft := ⟨⟨_, opened⟩, by simp [happens]⟩
      simp only [done]
      exact ⟨.made opens place content mode accepts, fun _ => opens⟩
    · have unmade : ¬ mishaps.Opens world.tree draft := fun opens => opens.2 failure happens
      exact ⟨.unmade unmade, nofun⟩
    · have opens : mishaps.Opens world.tree draft := ⟨⟨_, opened⟩, by simp [happens]⟩
      simp only [attempt_bind_of_ok done]
      exact ⟨.made opens place content mode accepts, fun _ => opens⟩
  · have unmade : ¬ mishaps.Opens world.tree draft := fun opens =>
      opens.1.elim fun opened same => closed opened same
    rcases happens : mishaps.opening with _ | ⟨failure, _ | _⟩
    · simp only [failed]
      exact ⟨.unmade unmade, nofun⟩
    · exact ⟨.unmade unmade, nofun⟩
    · simp only [attempt_bind_of_error failed]
      exact ⟨.unmade unmade, nofun⟩

/-- What becomes of a draft while bytes are written to it. -/
theorem drafted_append {half : World} (drafted : Drafted mishaps draft world half)
    (opens : mishaps.Opens world.tree draft) (bytes : Bytes) :
    Drafted mishaps draft world (half.attempt (mishaps.uponAction (append draft bytes))).2 := by
  cases drafted with
  | unmade unmade => exact absurd opens unmade
  | made _ place content mode accepts =>
    have appended := fun bytes => attempt_append_put accepts content bytes mode
    rw [mishaps.uponAction_append]
    rcases mishaps.writing with _ | ⟨failure, written⟩
    · simp only [appended]
      exact .made opens place _ _ accepts
    · simp only [attempt_bind_of_ok (appended _)]
      exact .made opens place _ _ accepts

/-- **What becomes of a draft while settings are written into it**, whatever goes wrong. -/
theorem drafted_writeDraft (mishaps : Mishaps) (depths : Json.Depths) (draft : Path)
    (settings : Settings) (world : World) :
    Drafted mishaps draft world
      (world.attempt (mishaps.uponAction (writeDraft depths draft settings))).2 := by
  obtain ⟨drafted, opens⟩ := drafted_overwrite mishaps draft world
  rw [writeDraft, mishaps.uponAction_bind, attempt_bind]
  cases opened : world.attempt (mishaps.uponAction (overwrite draft)) with
  | mk result half =>
    rw [opened] at drafted opens
    cases result with
    | error cause => exact drafted
    | ok _ =>
      have recorded : mishaps.uponAction (.ofExcept (record depths settings))
          = .ofExcept (record depths settings) := rfl
      simp only [mishaps.uponAction_bind, recorded]
      cases record depths settings with
      | error cause => exact drafted
      | ok value =>
        rw [attempt_bind_of_ok (attempt_ofExcept ..), attempt_bind]
        have written := drafted_append drafted (opens rfl)
          (Text.encode (Json.writtenText (Json.writes 0 "" value)))
        split
        · rename_i appended
          rw [appended] at written
          split
          · exact written
          · exact written
        · rename_i appended
          rw [appended] at written
          exact written

/-- **Where a draft cannot be written or moved**, it has been removed if the operating system
refused something, however far it had come. -/
theorem exists_abandoned
    (failed : world.attempt (mishaps.uponAction (moveDraft depths draft path settings))
      = (.error failure, later)) :
    ∃ half cause, Drafted mishaps draft world half
      ∧ half.attempt (discarding draft cause) = (.error failure, later) := by
  have removal : ∀ cause, mishaps.uponAction (discarding draft cause) = discarding draft cause :=
    fun cause => mishaps.uponAction_of_only <| by
      rw [discarding_eq]
      exact .ite (.bind (.orElse (.attempt (.perform trivial)) fun _ => .ite (.pure _) (.throw _))
        fun _ => .throw _) (.throw _)
  have moving : mishaps.uponAction (rename draft path) = rename draft path :=
    mishaps.uponAction_of_only (.attempt (.perform trivial))
  have drafted := drafted_writeDraft mishaps depths draft settings world
  rw [moveDraft, mishaps.uponAction_orElse, attempt_orElse, mishaps.uponAction_bind, attempt_bind]
    at failed
  simp only [removal, moving] at failed
  cases written : world.attempt (mishaps.uponAction (writeDraft depths draft settings)) with
  | mk result half =>
    rw [written] at failed drafted
    cases result with
    | error cause => exact ⟨half, cause, drafted, failed⟩
    | ok _ =>
      simp only at failed
      cases renamed : half.attempt (rename draft path) with
      | mk moved next =>
        rw [renamed] at failed
        cases moved with
        | ok _ => cases failed
        | error cause =>
          obtain rfl := attempt_rename_of_error renamed
          exact ⟨_, cause, drafted, failed⟩

end Drafts

/-! ### What is left of the draft -/

section Left

/-- A draft that takes no file's place is new. -/
theorem get?_of_fileAt_eq_none {tree : FileTree} {place : Location}
    (accepts : tree.Accepts draft place) (absent : tree.fileAt draft = none) :
    tree.get? place = none := by
  obtain ⟨located, free⟩ := accepts
  cases found : tree.get? place with
  | none => rfl
  | some entry =>
    cases entry with
    | directory => exact absurd found free
    | file content mode => simp [fileAt, FileTree.status, located, found] at absent

/-- What has been made is removed, if the operating system refused something. -/
theorem eq_of_discarding {place : Location} {content : Bytes} {mode : Nat} {cause : Failure}
    (accepts : world.tree.Accepts draft place) (unlinks : world.faults.remove = none)
    (failed : (world.withTree (world.tree.put place (.file content mode))).attempt
      (discarding draft cause) = (.error failure, later)) :
    failure = cause ∧ later.tree = if cause.isSystem then world.tree.erase place
      else world.tree.put place (.file content mode) := by
  rw [discarding_eq] at failed
  by_cases refused : cause.isSystem = true
  · have removed : ((world.tree.put place (.file content mode)).remove draft)
        = .ok (world.tree.erase place) := by
      simp only [FileTree.remove, accepts.locate_put, accepts.get?_put, erase_put]
    rw [if_pos refused] at failed ⊢
    rcases attempt_removeIfPresent draft
        (world.withTree (world.tree.put place (.file content mode))) with
      ⟨_, nothing | ⟨fault, other, _⟩⟩ | ⟨found, _, _, located, _, _, done⟩ | ⟨_, _, fails, _⟩
    · rw [withTree_tree, accepts.status_put] at nothing
      cases nothing
    · rw [withTree_faults, unlinks] at other
      cases other
    · rw [withTree_tree, accepts.locate_put] at located
      cases located
      rw [attempt_bind_of_ok done] at failed
      cases failed
      exact ⟨rfl, by rw [withTree_tree, withTree_tree, erase_put]⟩
    · obtain ⟨fault, refusal⟩ := fails unlinks
      rw [withTree_tree, removed] at refusal
      cases refusal
  · rw [if_neg refused] at failed ⊢
    cases failed
    exact ⟨rfl, rfl⟩

/-- Where nothing has been made nothing changes. -/
theorem eq_of_discarding_nothing (absent : world.tree.fileAt draft = none) {cause : Failure}
    (failed : world.attempt (discarding draft cause) = (.error failure, later)) :
    later = world := by
  rw [discarding_eq] at failed
  by_cases refused : cause.isSystem = true
  · rw [if_pos refused, attempt_bind] at failed
    rcases attempt_removeIfPresent draft world with
      ⟨done, _⟩ | ⟨place, content, mode, located, found, _, _⟩ | ⟨_, _, _, done⟩
    · rw [done] at failed
      cases failed
      rfl
    · simp [fileAt, FileTree.status, located, found] at absent
    · rw [done] at failed
      cases failed
      rfl
  · rw [if_neg refused] at failed
    cases failed
    rfl

/-- What a failed save does to its draft: none is left and nothing has changed, or it is left. -/
inductive Leaving (mishaps : Mishaps) (draft : Path) (failure : Failure) (before : FileTree) :
    FileTree → Prop
  | nothing (clean : failure.isSystem = true ∨ ¬ mishaps.Opens before draft) :
      Leaving mishaps draft failure before before
  | draft (other : failure.isSystem = false) (made : mishaps.Opens before draft) (place : Location)
      (content : Bytes) (mode : Nat) (accepts : before.Accepts draft place) :
      Leaving mishaps draft failure before (before.put place (.file content mode))

/-- **What is left where a draft cannot be written or moved.** -/
theorem leaving_moveDraft (absent : world.tree.fileAt draft = none)
    (unlinks : world.faults.remove = none)
    (failed : world.attempt (mishaps.uponAction (moveDraft depths draft path settings))
      = (.error failure, later)) :
    Leaving mishaps draft failure world.tree later.tree := by
  obtain ⟨half, cause, drafted, discarded⟩ := exists_abandoned failed
  cases drafted with
  | unmade unmade =>
    rw [eq_of_discarding_nothing absent discarded]
    exact .nothing (.inr unmade)
  | made made place content mode accepts =>
    obtain ⟨rfl, left⟩ := eq_of_discarding accepts unlinks discarded
    rw [left]
    by_cases refused : failure.isSystem = true
    · rw [if_pos refused, erase_of_absent (get?_of_fileAt_eq_none accepts absent)]
      exact .nothing (.inl refused)
    · rw [if_neg refused]
      exact .draft (Bool.eq_false_iff.mpr refused) made place content mode accepts

/-- **The draft is left exactly if the failure is not one of the operating system and the draft was
made**, and nothing else has changed. -/
theorem Leaving.fileAt_eq_none_iff {before after : FileTree}
    (leaving : Leaving mishaps draft failure before after) (absent : before.fileAt draft = none) :
    (after.fileAt draft = none ↔ failure.isSystem = true ∨ ¬ mishaps.Opens before draft)
      ∧ (after.fileAt draft = none → after = before) := by
  cases leaving with
  | nothing clean => exact ⟨iff_of_true absent clean, fun _ => rfl⟩
  | draft other made place content mode accepts =>
    have there : (before.put place (.file content mode)).fileAt draft = some (content, mode) := by
      rw [fileAt, accepts.status_put]
    rw [there, other]
    simp [made]

/-- The settings file is as it was. -/
theorem Leaving.fileAt_eq {before after : FileTree}
    (leaving : Leaving mishaps draft failure before after) (drafted : draftPath path = .ok draft)
    (there : before.status path.parent = .ok .directory) :
    after.fileAt path = before.fileAt path := by
  cases leaving with
  | nothing clean => rfl
  | draft other made place content mode accepts =>
    have grown : GrownBut (· = place) before (before.put place (.file content mode)) :=
      .of_sameBut (sameBut_put accepts.1 accepts.2 _) fun found located =>
        (Place.named.inj (Except.ok.inj (accepts.1.symm.trans located))).symm
    refine (saysSame_of_grownBut there grown fun location placed => ?_).fileAt
    exact ne_of_name_ne (name_draft_ne drafted) (locate_eq_named_iff.mp accepts.1).1 placed

end Left

/-! ### Saves -/

section Saves

theorem upon_remembering {α : Type} (mishaps : Mishaps) (store : SettingsStore) (action : Action α)
    (settings : α → Settings) :
    mishaps.upon (store.remembering action settings)
      = store.remembering (mishaps.uponAction action) settings := by
  refine (mishaps.upon_bind action.outcome _).trans ?_
  refine congrArg (mishaps.upon action.outcome >>= ·) (funext fun result => ?_)
  cases result <;> rfl

/-- Directories are made without writing files. -/
theorem writesNothing_of_isDirectoryWork {effect : Effect} (made : IsDirectoryWork effect) :
    effect.WritesNothing := by
  cases effect with
  | file action => cases action <;> first | exact made.elim | trivial
  | _ => exact made.elim

/-- Where a save fails after its directory has been made, there is no name for a draft, or the draft
cannot be written or moved. -/
theorem moveDraft_of_replaceFile {ready : World}
    (ensured : world.attempt (ensureDirectory path.parent) = (.ok (), ready))
    (failed : world.attempt (mishaps.uponAction (replaceFile depths path settings))
      = (.error failure, later)) :
    (∃ cause, draftPath path = .error cause ∧ later = ready)
      ∨ ∃ draft, draftPath path = .ok draft
        ∧ ready.attempt (mishaps.uponAction (moveDraft depths draft path settings))
          = (.error failure, later) := by
  have directories : mishaps.uponAction (ensureDirectory path.parent)
      = ensureDirectory path.parent :=
    mishaps.uponAction_of_only <| (only_ensureDirectory path.parent).mono
      fun _ => writesNothing_of_isDirectoryWork
  have named : mishaps.uponAction (.ofExcept (draftPath path)) = .ofExcept (draftPath path) := rfl
  have told : ∀ message, mishaps.uponAction (AssetFetch.log .info logger message)
      = AssetFetch.log .info logger message := fun message =>
    mishaps.uponAction_of_only (.ofProgram (.perform trivial))
  rw [replaceFile_eq, mishaps.uponAction_bind, directories, attempt_bind_of_ok ensured] at failed
  simp only [mishaps.uponAction_bind, named, told] at failed
  cases drafted : draftPath path with
  | error cause =>
    rw [drafted] at failed
    cases failed
    exact .inl ⟨_, rfl, rfl⟩
  | ok draft =>
    rw [drafted, attempt_bind_of_ok (attempt_ofExcept ..), attempt_bind] at failed
    refine .inr ⟨draft, rfl, ?_⟩
    cases moved : ready.attempt (mishaps.uponAction (moveDraft depths draft path settings)) with
    | mk result next =>
      rw [moved] at failed
      cases result with
      | ok _ =>
        simp only [attempt_log] at failed
        cases failed
      | error cause =>
        cases failed
        rfl

/-- **What a save that fails after its directory has been made leaves**: the settings file as it
was, and no draft exactly if the failure is one of the operating system or the draft was not made.
Where no draft is left no file has changed. -/
theorem save_cleans_up_iff (mishaps : Mishaps) (store : SettingsStore) (settings : Settings)
    {world ready later : World} {failure : Failure} {left : SettingsStore}
    (ensured : world.attempt (ensureDirectory store.path.parent) = (.ok (), ready))
    (absent : ∀ draft, draftPath store.path = .ok draft → ready.tree.fileAt draft = none)
    (unlinks : world.faults.remove = none)
    (failed : world.run (mishaps.upon (store.save settings)) = ((.error failure, left), later)) :
    later.tree.fileAt store.path = ready.tree.fileAt store.path
      ∧ ∀ draft, draftPath store.path = .ok draft →
        (later.tree.fileAt draft = none
            ↔ failure.isSystem = true ∨ ¬ mishaps.Opens ready.tree draft)
          ∧ (later.tree.fileAt draft = none → later.tree = ready.tree) := by
  obtain ⟨tree, rfl, -⟩ : ∃ tree, ready = world.withTree tree ∧ world.tree.Grown tree := by
    have grownTo := grownTo_ensureDirectory store.path.parent world
    rwa [ensured] at grownTo
  have replaced : world.attempt (mishaps.uponAction (replaceFile store.depths store.path settings))
      = (.error failure, later) := by
    rw [save, upon_remembering, run_remembering_eq] at failed
    split at failed
    · cases failed
    · rename_i broken
      cases failed
      exact broken
  rcases moveDraft_of_replaceFile ensured replaced with
    ⟨cause, unnamed, rfl⟩ | ⟨draft, drafted, moved⟩
  · refine ⟨rfl, fun draft drafted => ?_⟩
    rw [unnamed] at drafted
    cases drafted
  · have leaving := leaving_moveDraft (absent draft drafted) unlinks moved
    refine ⟨leaving.fileAt_eq drafted (status_of_ensured ensured), fun other also => ?_⟩
    obtain rfl := Except.ok.inj (drafted.symm.trans also)
    exact leaving.fileAt_eq_none_iff (absent draft drafted)

/-- A settings file in the working directory. -/
def fileHere : Path := ⟨0, ["settings.json"]⟩

/-- The draft beside it. -/
def draftHere : Path := ⟨0, ["settings.json.tmp"]⟩

/-- A world without files where nothing can be moved. -/
def fixedWorld : World :=
  let denied := Failure.system (.numbered 13 "Permission denied" [])
  { World.empty with faults := { FileFaults.none with rename := some denied } }

/-- Whether the operating system has refused something. -/
def isRefused : Except Failure Unit → Bool
  | .ok _ => false
  | .error failure => failure.isSystem

/-- A save whose draft cannot be moved leaves nothing. -/
theorem refused_save_cleans_up :
    ∃ failure left later,
      fixedWorld.run (Mishaps.none.upon ((ofPath .usual fileHere).save .defaults))
        = ((.error failure, left), later)
      ∧ later.tree = .empty := by
  have refused : isRefused
      (fixedWorld.run (Mishaps.none.upon ((ofPath .usual fileHere).save .defaults))).1.1
        = true := by
    decide +kernel
  rcases failed : fixedWorld.run (Mishaps.none.upon ((ofPath .usual fileHere).save .defaults))
    with ⟨⟨result, left⟩, later⟩
  rw [failed] at refused
  cases result with
  | ok _ => cases refused
  | error failure =>
    have ensured : fixedWorld.attempt (ensureDirectory fileHere.parent) = (.ok (), fixedWorld) :=
      attempt_ensureDirectory_of_there rfl
    have nowhere : fixedWorld.tree.fileAt draftHere = none := by decide +kernel
    have named : draftPath fileHere = .ok draftHere :=
      draftPath_eq_ok_iff.mpr (by decide +kernel)
    have absent : ∀ draft, draftPath fileHere = .ok draft →
        fixedWorld.tree.fileAt draft = none := by
      intro draft drafted
      rw [← Except.ok.inj (named.symm.trans drafted)]
      exact nowhere
    have clean := (save_cleans_up_iff .none (ofPath .usual fileHere) .defaults ensured absent rfl
      failed).2
      draftHere named
    exact ⟨failure, left, later, rfl, clean.2 (clean.1.mpr (.inl refused))⟩

/-- A world without files where the move of a file is interrupted. -/
def interruptedWorld : World :=
  let interrupt := Failure.interruption .keyboard none
  { World.empty with faults := { FileFaults.none with rename := some interrupt } }

/-- A save that is interrupted leaves its draft. -/
theorem interrupted_save_leaves_draft :
    ∃ failure left later,
      interruptedWorld.run (Mishaps.none.upon ((ofPath .usual fileHere).save .defaults))
        = ((.error failure, left), later)
      ∧ interruptedWorld.tree.fileAt draftHere = none ∧ later.tree.fileAt draftHere ≠ none := by
  have outcome : (interruptedWorld.run ((ofPath .usual fileHere).save .defaults)).1.1.isOk = false
      ∧ ((interruptedWorld.run ((ofPath .usual fileHere).save .defaults)).2.tree.fileAt
        draftHere).isSome = true := by decide +kernel
  have nowhere : interruptedWorld.tree.fileAt draftHere = none := by decide +kernel
  rw [Mishaps.upon_none]
  rcases failed : interruptedWorld.run ((ofPath .usual fileHere).save .defaults)
    with ⟨⟨result, left⟩, later⟩
  rw [failed] at outcome
  obtain ⟨error, remains⟩ := outcome
  cases result with
  | ok _ => cases error
  | error failure =>
    exact ⟨failure, left, later, rfl, nowhere, Option.isSome_iff_ne_none.mp remains⟩

end Saves

end SettingsStore

end AssetFetch
