/-
**A draft beside the destination.**

While a file is written it is a draft: an entry that was not there before, and the only one that
differs.

* `tree_onFile_of_error`: an operation that fails leaves the files as they are;
* `FileTree.Drafted`, `FileTree.Draft`: there is a draft, and there may be one;
* `FileTree.SameBut`: nothing differs but what one path names, and `SameBut.status_beside`: the
  destination beside it does not either;
* `onFile_create_eq_ok_iff`, `onFile_append`, `onFile_setMode_eq_ok_iff`,
  `onFile_remove_eq_ok_iff`: how a draft comes to be, grows and goes;
* `Effect.Drafts`, `Effect.Fills`, `Effect.Owns`: effects that leave all but a draft alone and send
  nothing, with them those that begin and end it, and with these requests;
* `drafted_answer`: no step of these loses the draft.
-/

import AssetFetch.Proofs.Surroundings
import AssetFetch.Proofs.FileTree

namespace AssetFetch

/-! ### Operations that fail -/

section Failing

theorem World.tree_onFile_of_error {world : World} {action : FileAction} {failure : Failure}
    (failed : (world.onFile action).1 = .error failure) :
    (world.onFile action).2.tree = world.tree := by
  cases action with
  | create path mode | setMode path mode =>
    revert failed
    simp only [World.onFile, World.withMode, World.changing]
    repeat' split
    all_goals simp
  | overwrite path | append path bytes | makeDirectory path =>
    revert failed
    simp only [World.onFile, World.changing]
    split <;> simp
  | sync path | isDirectory path =>
    simp only [World.onFile]
    split <;> rfl
  | rename source target | remove path =>
    revert failed
    simp only [World.onFile]
    repeat' split
    all_goals simp
  | flush path | close path | read path => rfl

/-- **An operation that fails leaves the files as they are.** -/
theorem Surroundings.tree_onFile_of_error {surroundings : Surroundings} {scene : Scene}
    {action : FileAction} {failure : Failure}
    (failed : (surroundings.onFile scene action).1 = .error failure) :
    (surroundings.onFile scene action).2 = scene.tree := by
  unfold Surroundings.onFile at failed ⊢
  split
  · rfl
  · rename_i accepted
    simp only [accepted] at failed
    exact World.tree_onFile_of_error failed

/-- An operation is done, or it fails and leaves the files as they are. -/
theorem Surroundings.onFile_done_or_failed (surroundings : Surroundings) (scene : Scene)
    (action : FileAction) :
    (∃ value after, surroundings.onFile scene action = (.ok value, after))
      ∨ ∃ failure, surroundings.onFile scene action = (.error failure, scene.tree) := by
  cases replied : surroundings.onFile scene action with
  | mk reply after =>
    cases reply with
    | ok value => exact Or.inl ⟨value, after, rfl⟩
    | error failure =>
      have same := tree_onFile_of_error (congrArg Prod.fst replied)
      rw [replied] at same
      exact Or.inr ⟨failure, Prod.ext rfl same⟩

end Failing

/-! ### Drafts -/

namespace FileTree

section Drafts

variable {tree now : FileTree} {file destination : Path} {place : Location}

/-- There is a new file, and nothing else is different. -/
def Drafted (tree : FileTree) (file : Path) (now : FileTree) : Prop :=
  ∃ location content mode, tree.Vacant file location
    ∧ now = tree.put location (.file content mode)

/-- There may be a new file, and nothing else is different. -/
def Draft (tree : FileTree) (file : Path) (now : FileTree) : Prop :=
  now = tree ∨ tree.Drafted file now

/-- Nothing differs but what the path names, which is no directory. -/
def SameBut (tree : FileTree) (file : Path) (now : FileTree) : Prop :=
  now = tree ∨ ∃ location, tree.locate file = .ok (.named location)
    ∧ tree.get? location ≠ some .directory
    ∧ ∀ other, other ≠ location → now.get? other = tree.get? other

theorem Draft.sameBut (draft : tree.Draft file now) : tree.SameBut file now := by
  rcases draft with rfl | ⟨location, content, mode, vacant, rfl⟩
  · exact Or.inl rfl
  · exact Or.inr ⟨location, vacant.1, vacant.ne_directory, fun _ apart => get?_put_of_ne apart⟩

/-- **A draft is seen under its own path only**: the destination beside it names what it named. -/
theorem SameBut.status_beside (same : tree.SameBut file now) (beside : Beside file destination) :
    now.status destination = tree.status destination := by
  rcases same with rfl | ⟨location, located, free, equal⟩
  · rfl
  · refine status_of_beside beside located (fun other directory => ?_) equal
    have apart : other ≠ location := fun same => free (same ▸ directory)
    rw [equal other apart, directory]

theorem SameBut.locate_of_differs (same : tree.SameBut file now)
    (differs : now.get? place ≠ tree.get? place) : tree.locate file = .ok (.named place) := by
  rcases same with rfl | ⟨location, located, _, equal⟩
  · exact absurd rfl differs
  · by_cases here : place = location
    · rw [here]
      exact located
    · exact absurd (equal place here) differs

theorem remove_eq_ok_iff : tree.remove file = .ok now
    ↔ ∃ location content mode, tree.locate file = .ok (.named location)
        ∧ tree.get? location = some (.file content mode) ∧ now = tree.erase location := by
  unfold remove
  constructor
  · intro removed
    split at removed
    · cases removed
    · cases removed
    · rename_i location located
      split at removed
      · cases removed
      · rename_i content mode found
        cases removed
        exact ⟨location, content, mode, located, found, rfl⟩
      · cases removed
  · rintro ⟨location, content, mode, located, found, rfl⟩
    simp only [located, found]

/-- Removing the file that a path names, or the draft under it, leaves all else as it was. -/
theorem Draft.sameBut_remove {after : FileTree} (draft : tree.Draft file now)
    (removed : now.remove file = .ok after) : tree.SameBut file after := by
  rcases draft with rfl | ⟨location, content, mode, vacant, rfl⟩
  · obtain ⟨location, content, mode, located, found, rfl⟩ := remove_eq_ok_iff.mp removed
    refine Or.inr ⟨location, located, by simp [found], fun other apart => get?_erase_of_ne apart⟩
  · rw [vacant.remove_put] at removed
    cases removed
    exact Or.inl rfl

end Drafts

end FileTree

/-! ### Operations on a draft -/

section Operations

variable {surroundings : Surroundings} {scene : Scene} {tree after : FileTree} {file : Path}
  {location : Location} {content : Bytes} {mode : Nat}

/-- The permission bits to create a file with, if they can be handed over. -/
def wishedMode : Given Int → Option Int
  | .absent => some FileTree.plainMode
  | .blank => none
  | .value mode =>
    if mode < World.modeRange.1 ∨ World.modeRange.2 < mode then none else some mode

/-- An operation with permission bits succeeds when they can be handed over and it does so itself.
-/
theorem World.withMode_eq_ok_iff {world : World} {path : Path} {wish : Given Int}
    {result : Int → Except FileFault FileTree}
    (refuses : ∀ fault, FileTree.systemNames path = .error fault →
      ∀ mode after, result mode ≠ .ok after) :
    (world.withMode path wish result).1 = .ok () ∧ (world.withMode path wish result).2.tree = after
      ↔ ∃ mode, wishedMode wish = some mode ∧ result mode = .ok after := by
  have changed : ∀ outcome : Except FileFault FileTree,
      (world.changing [path] outcome).1 = .ok () ∧ (world.changing [path] outcome).2.tree = after
        ↔ outcome = .ok after := by
    intro outcome
    cases outcome with
    | ok other => simp [World.changing]
    | error fault => simp [World.changing]
  unfold World.withMode
  split
  · rename_i refused
    simp [refuses _ refused]
  · rename_i refused
    simp [refuses _ refused]
  · simp [wishedMode, changed]
  · simp [wishedMode]
  · rename_i wanted _ _
    by_cases far : wanted < World.modeRange.1 ∨ World.modeRange.2 < wanted
    · simp [wishedMode, far]
    · have near : (decide (wanted < World.modeRange.1)
          || decide (World.modeRange.2 < wanted)) = false := by simpa using far
      simp [wishedMode, far, near, changed]

/-- Where nothing is refused for other reasons, the files decide. -/
theorem onFile_eq_iff_of_free {action : FileAction} {reply : Except Failure action.Result}
    (free : surroundings.refusals.of scene.writes action = none) :
    surroundings.onFile scene action = (reply, after)
      ↔ ((World.ofFiles scene.tree).onFile action).1 = reply
          ∧ ((World.ofFiles scene.tree).onFile action).2.tree = after := by
  unfold Surroundings.onFile
  simp only [free, Prod.mk.injEq]

/-- What is refused for other reasons fails with that reason. -/
theorem onFile_of_refused {action : FileAction} {failure : Failure}
    (refused : surroundings.refusals.of scene.writes action = some failure) :
    surroundings.onFile scene action = (.error failure, scene.tree) := by
  unfold Surroundings.onFile
  simp only [refused]

theorem createNew_ne_ok {fault : FileFault} (refused : FileTree.systemNames file = .error fault)
    (wished : Int) : tree.createNew file wished ≠ .ok after := by
  simp [FileTree.createNew, FileTree.locate, FileTree.placeOf, refused]

/-- **A draft comes to be** where nothing is, and nowhere else. -/
theorem onFile_create_eq_ok_iff {wish : Given Int} :
    surroundings.onFile scene (.create file wish) = (.ok (), after)
      ↔ surroundings.refusals.create = none ∧ ∃ wished location, wishedMode wish = some wished
          ∧ scene.tree.Vacant file location
          ∧ after = scene.tree.put location (.file [] (FileTree.newMode wished)) := by
  cases free : surroundings.refusals.create with
  | some failure =>
    simp [onFile_of_refused (show surroundings.refusals.of _ (.create file wish) = _ from free)]
  | none =>
    rw [onFile_eq_iff_of_free (by exact free)]
    refine (World.withMode_eq_ok_iff fun _ refused mode _ => createNew_ne_ok refused mode).trans ?_
    simp only [true_and]
    refine exists_congr fun wished => ?_
    rw [World.ofFiles, FileTree.createNew_eq_ok_iff]
    simp

/-- A draft grows unless the write is refused. -/
theorem onFile_append (vacant : tree.Vacant file location)
    (here : scene.tree = tree.put location (.file content mode)) (bytes : Bytes) :
    surroundings.onFile scene (.append file bytes)
      = match surroundings.refusals.write scene.writes with
        | some failure => (.error failure, scene.tree)
        | none =>
          (.ok (), tree.put location
            (.file (content ++ bytes) (FileTree.modeWith tree.privileged bytes mode))) := by
  cases free : surroundings.refusals.write scene.writes with
  | some failure => exact onFile_of_refused free
  | none =>
    rw [onFile_eq_iff_of_free (by exact free)]
    simp only [World.onFile, World.ofFiles, here, vacant.append_put, World.changing]
    exact ⟨rfl, trivial⟩

/-- The permission bits of a draft are set exactly. -/
theorem onFile_setMode_eq_ok_iff (vacant : tree.Vacant file location)
    (here : scene.tree = tree.put location (.file content mode)) {wished : Int} :
    surroundings.onFile scene (.setMode file wished) = (.ok (), after)
      ↔ surroundings.refusals.setMode = none ∧ wishedMode (.value wished) = some wished
          ∧ after = tree.put location (.file content (FileTree.modeBits wished)) := by
  cases free : surroundings.refusals.setMode with
  | some failure =>
    simp [onFile_of_refused (show surroundings.refusals.of _ (.setMode file wished) = _ from free)]
  | none =>
    have refuses : ∀ fault, FileTree.systemNames file = .error fault →
        ∀ mode after, scene.tree.setMode file mode ≠ .ok after := by
      intro fault refused mode after
      simp [FileTree.setMode, FileTree.locate, FileTree.placeOf, refused]
    rw [onFile_eq_iff_of_free (by exact free)]
    refine (World.withMode_eq_ok_iff refuses).trans ?_
    simp only [here, vacant.setMode_put, wishedMode, true_and]
    split
    · simp
    · simp [eq_comm]

/-- The operations that make sure of what has been written. -/
def FileAction.Settles : FileAction → Prop
  | flush _ | sync _ | close _ => True
  | _ => False

/-- **They change nothing**, and fail only if they are refused. -/
theorem onFile_of_settles {action : FileAction} (settles : action.Settles) :
    (surroundings.onFile scene action).2 = scene.tree
      ∧ ∀ failure, (surroundings.onFile scene action).1 = .error failure
        ↔ surroundings.refusals.of scene.writes action = some failure := by
  cases refused : surroundings.refusals.of scene.writes action with
  | some other =>
    rw [onFile_of_refused refused]
    exact ⟨rfl, fun failure => ⟨fun same => congrArg some (Except.error.inj same),
      fun same => congrArg _ (Option.some.inj same)⟩⟩
  | none =>
    have done := (onFile_eq_iff_of_free refused).mpr ⟨rfl, rfl⟩
    rw [done]
    cases action with
    | flush _ | sync _ | close _ => exact ⟨rfl, fun failure => iff_of_false (by rintro ⟨⟩) nofun⟩
    | _ => exact settles.elim

theorem onFile_rename_eq_ok_iff {source target : Path} :
    surroundings.onFile scene (.rename source target) = (.ok (), after)
      ↔ surroundings.refusals.rename = none ∧ scene.tree.rename source target = .ok after := by
  cases free : surroundings.refusals.rename with
  | some failure =>
    simp [onFile_of_refused (show surroundings.refusals.of _ (.rename source target) = _ from free)]
  | none =>
    rw [onFile_eq_iff_of_free (by exact free)]
    cases moved : scene.tree.rename source target with
    | ok other => simp [World.onFile, World.ofFiles, World.empty, FileFaults.none, moved]
    | error fault => simp [World.onFile, World.ofFiles, World.empty, FileFaults.none, moved]

theorem onFile_remove_eq_ok_iff :
    surroundings.onFile scene (.remove file) = (.ok (), after)
      ↔ surroundings.refusals.remove = none ∧ scene.tree.remove file = .ok after := by
  cases free : surroundings.refusals.remove with
  | some failure =>
    simp [onFile_of_refused (show surroundings.refusals.of _ (.remove file) = _ from free)]
  | none =>
    rw [onFile_eq_iff_of_free (by exact free)]
    cases removed : scene.tree.remove file with
    | ok other => simp [World.onFile, World.ofFiles, World.empty, FileFaults.none, removed]
    | error fault => simp [World.onFile, World.ofFiles, World.empty, FileFaults.none, removed]

end Operations

/-! ### Steps that keep a draft -/

section Steps

variable {surroundings : Surroundings} {scene : Scene} {tree : FileTree} {file : Path}

/-- Mute effects, and those on a file that is open. -/
def Effect.Drafts (file : Path) : Effect → Prop
  | .file (.append path _) => path = file
  | .file (.setMode path _) => path = file
  | .file (.flush path) => path = file
  | .file (.sync path) => path = file
  | .file (.close path) => path = file
  | effect => effect.IsMute

theorem Effect.IsMute.drafts {effect : Effect} (mute : effect.IsMute) (file : Path) :
    effect.Drafts file := by
  cases effect with
  | file action => exact mute.elim
  | _ => exact mute

/-- Operations on one's own file. -/
def FileAction.IsOn (file : Path) : FileAction → Prop
  | create path _ => path = file
  | append path _ => path = file
  | setMode path _ => path = file
  | flush path => path = file
  | sync path => path = file
  | close path => path = file
  | remove path => path = file
  | _ => False

/-- Mute effects, and operations on one's own file. -/
def Effect.Fills (file : Path) : Effect → Prop
  | .file action => action.IsOn file
  | effect => effect.IsMute

/-- Quiet effects, and operations on one's own file. -/
def Effect.Owns (file : Path) : Effect → Prop
  | .file action => action.IsOn file
  | effect => effect.IsQuiet

theorem Effect.IsMute.fills {effect : Effect} (mute : effect.IsMute) (file : Path) :
    effect.Fills file := by
  cases effect with
  | file action => exact mute.elim
  | _ => exact mute

theorem Effect.Drafts.fills {effect : Effect} (drafts : effect.Drafts file) :
    effect.Fills file := by
  cases effect with
  | file action =>
    cases action with
    | append _ _ | setMode _ _ | flush _ | sync _ | close _ => exact drafts
    | _ => exact drafts.elim
  | _ => exact drafts

theorem Effect.Fills.owns {effect : Effect} (fills : effect.Fills file) : effect.Owns file := by
  cases effect with
  | file action => exact fills
  | send request => trivial
  | _ => exact fills

theorem Effect.Owns.file_or_quiet {effect : Effect} (owns : effect.Owns file) :
    (∃ action, effect = .file action ∧ action.IsOn file) ∨ effect.IsQuiet := by
  cases effect with
  | file action => exact .inl ⟨action, rfl, owns⟩
  | _ => exact .inr owns

theorem Effect.Owns.plain {effect : Effect} (owns : effect.Owns file) : effect.IsPlain := by
  cases effect with
  | file action => trivial
  | _ => exact owns

theorem tree_answer_of_quiet {effect : Effect} (quiet : effect.IsQuiet) :
    (surroundings.answer scene effect).2.tree = scene.tree := by
  cases effect with
  | file action => exact quiet.elim
  | _ => rfl

theorem drafted_onFile {action : FileAction} (drafts : (Effect.file action).Drafts file)
    (drafted : tree.Drafted file scene.tree) :
    tree.Drafted file (surroundings.onFile scene action).2 := by
  obtain ⟨location, content, mode, vacant, here⟩ := drafted
  rcases surroundings.onFile_done_or_failed scene action with ⟨value, after, done⟩ | ⟨_, failed⟩
  · rw [done]
    cases action with
    | append path bytes =>
      cases drafts
      rw [onFile_append vacant here] at done
      split at done
      · cases done
      · cases done
        exact ⟨location, _, _, vacant, rfl⟩
    | setMode path wished =>
      cases drafts
      obtain ⟨_, _, rfl⟩ := (onFile_setMode_eq_ok_iff vacant here).mp done
      exact ⟨location, _, _, vacant, rfl⟩
    | flush path | sync path | close path =>
      have same := (congrArg Prod.snd done).symm.trans (onFile_of_settles (by trivial)).1
      exact ⟨location, content, mode, vacant, same.trans here⟩
    | _ => exact drafts.elim
  · rw [failed]
    exact ⟨location, content, mode, vacant, here⟩

/-- **No step of these loses the draft.** -/
theorem drafted_answer {effect : Effect} (drafts : effect.Drafts file)
    (drafted : tree.Drafted file scene.tree) :
    tree.Drafted file (surroundings.answer scene effect).2.tree := by
  cases effect with
  | file action => exact drafted_onFile drafts drafted
  | _ => exact drafted

end Steps

end AssetFetch
