/-
**Where failures come from.**

What an action can fail with is found part by part: a part fails as an effect in it does, or says so
itself.

* `attempt_bind_eq_error_iff`: a sequence fails as one of its parts does;
* `Surroundings.FailsWith`: every failure of an action is of some kind;
* `FailsWith.bind`, `FailsWith.orElse` and their kin: the failures of what is put together;
* `isOfFile_of_error`: an operation on files fails because it is refused, or because of the files;
* `Path.IsUsable`: a path that the system takes;
* `isSystem_of_remove_error`, `exists_of_untaken`: what the removal of a file fails with.
-/

import AssetFetch.Proofs.Draft

namespace AssetFetch

/-! ### Failures of actions -/

namespace Surroundings

variable {α β : Type} {surroundings : Surroundings} {kind other : Failure → Prop}

/-- **A sequence fails exactly when one of its parts does**, the second one after the first. -/
theorem attempt_bind_eq_error_iff {action : Action α} {next : α → Action β} {scene : Scene}
    {failure : Failure} :
    (∃ later, surroundings.attempt (action >>= next) scene = (.error failure, later))
      ↔ (∃ later, surroundings.attempt action scene = (.error failure, later))
        ∨ ∃ value now, surroundings.attempt action scene = (.ok value, now)
          ∧ ∃ later, surroundings.attempt (next value) now = (.error failure, later) := by
  rw [attempt_bind]
  cases surroundings.attempt action scene with
  | mk result now =>
    cases result with
    | ok value =>
      constructor
      · exact fun failed => Or.inr ⟨value, now, rfl, failed⟩
      · rintro (⟨_, ⟨⟩⟩ | ⟨_, _, same, failed⟩)
        cases same
        exact failed
    | error other =>
      constructor
      · rintro ⟨_, ⟨⟩⟩
        exact Or.inl ⟨now, rfl⟩
      · rintro (⟨_, ⟨⟩⟩ | ⟨_, _, same, _⟩)
        · exact ⟨now, rfl⟩
        · cases same

/-- Every failure of an action is of some kind, whatever has happened before. -/
def FailsWith (surroundings : Surroundings) (kind : Failure → Prop) (action : Action α) : Prop :=
  ∀ scene failure later, surroundings.attempt action scene = (.error failure, later) → kind failure

namespace FailsWith

theorem mono {action : Action α} (fails : surroundings.FailsWith other action)
    (widen : ∀ failure, other failure → kind failure) : surroundings.FailsWith kind action :=
  fun scene failure later failed => widen failure (fails scene failure later failed)

theorem pure (value : α) : surroundings.FailsWith kind (Pure.pure value) := by
  rintro scene failure later ⟨⟩

theorem throw {failure : Failure} (here : kind failure) :
    surroundings.FailsWith kind (throw failure : Action α) := by
  rintro scene _ later ⟨⟩
  exact here

theorem ofExcept {result : Except Failure α} (here : ∀ failure, result = .error failure →
      kind failure) : surroundings.FailsWith kind (.ofExcept result) := by
  intro scene failure later failed
  exact here failure (congrArg Prod.fst failed)

/-- What a program gives is no failure of its own. -/
theorem ofProgram (program : Program α) : surroundings.FailsWith kind (.ofProgram program) := by
  have never : ∀ (program : Program α) scene failure later,
      surroundings.run (Action.ofProgram program).outcome scene ≠ (.error failure, later) := by
    intro program
    induction program with
    | done value => nofun
    | ask effect next ih => exact fun scene => ih _ (surroundings.answer scene effect).2
  exact fun scene failure later failed => absurd failed (never program scene failure later)

theorem log (severity : Severity) (logger message : String) :
    surroundings.FailsWith kind (log severity logger message) :=
  .ofProgram _

theorem bind {action : Action α} {next : α → Action β} (first : surroundings.FailsWith kind action)
    (rest : ∀ value, surroundings.FailsWith kind (next value)) :
    surroundings.FailsWith kind (action >>= next) := by
  intro scene failure later failed
  rcases attempt_bind_eq_error_iff.mp ⟨later, failed⟩ with ⟨_, broken⟩ | ⟨_, _, _, _, broken⟩
  · exact first _ _ _ broken
  · exact rest _ _ _ _ broken

/-- A handler sees the failures of what it stands behind. -/
theorem orElse {action : Action α} {handler : Failure → Action α}
    (first : surroundings.FailsWith other action)
    (handled : ∀ failure, other failure → surroundings.FailsWith kind (handler failure)) :
    surroundings.FailsWith kind (action.orElse handler) := by
  intro scene failure later failed
  rw [attempt_orElse] at failed
  split at failed
  · cases failed
  · rename_i broken
    exact handled _ (first _ _ _ broken) _ _ _ failed

theorem whatever {action : Action α} {last : Action Unit}
    (first : surroundings.FailsWith kind action) (final : surroundings.FailsWith kind last) :
    surroundings.FailsWith kind (action.whatever last) := by
  intro scene failure later failed
  rw [attempt_whatever] at failed
  split at failed
  · exact (final.bind fun _ => .pure _) _ _ _ failed
  · rename_i broken
    exact (final.bind fun _ => .throw (first _ _ _ broken)) _ _ _ failed

theorem ite {condition : Prop} [Decidable condition] {yes no : Action α}
    (first : condition → surroundings.FailsWith kind yes)
    (second : ¬ condition → surroundings.FailsWith kind no) :
    surroundings.FailsWith kind (if condition then yes else no) := by
  by_cases holds : condition
  · rw [if_pos holds]
    exact first holds
  · rw [if_neg holds]
    exact second holds

/-- A single operation on files. -/
theorem file {action : FileAction} (here : ∀ scene failure,
      (surroundings.onFile scene action).1 = .error failure → kind failure) :
    surroundings.FailsWith kind (.attempt (perform (.file action))) :=
  fun scene failure _ failed => here scene failure (congrArg Prod.fst failed)

/-- Anything is some failure. -/
theorem anything (action : Action α) : surroundings.FailsWith (fun _ => True) action :=
  fun _ _ _ _ => trivial

end FailsWith

end Surroundings

/-! ### Failures of operations on files -/

/-- Whether files make an operation fail so: the system reports it, or the path or the permission
bits cannot be handed over. -/
def Failure.isOfFile : Failure → Bool
  | .system _ | .nullInPath | .unencodable _ | .notAnInteger _ | .modeTooLarge => true
  | _ => false

theorem Failure.isOfFile_ofFile (paths : List Path) (fault : FileFault) :
    (Failure.ofFile paths fault).isOfFile = true := by
  cases fault <;> rfl

namespace World

variable {world : World} {failure : Failure}

theorem isOfFile_of_changing_error {paths : List Path} {result : Except FileFault FileTree}
    (failed : (world.changing paths result).1 = .error failure) : failure.isOfFile = true := by
  cases result with
  | ok tree => cases failed
  | error fault =>
    cases failed
    exact Failure.isOfFile_ofFile paths fault

theorem isOfFile_of_withMode_error {path : Path} {wish : Given Int}
    {result : Int → Except FileFault FileTree}
    (failed : (world.withMode path wish result).1 = .error failure) : failure.isOfFile = true := by
  unfold withMode at failed
  split at failed
  · cases failed
    rfl
  · cases failed
    rfl
  · exact isOfFile_of_changing_error failed
  · cases failed
    rfl
  · split at failed
    · cases failed
      rfl
    · exact isOfFile_of_changing_error failed

theorem isOfFile_of_error {tree : FileTree} {action : FileAction}
    (failed : ((World.ofFiles tree).onFile action).1 = .error failure) :
    failure.isOfFile = true := by
  cases action with
  | create path mode | setMode path mode => exact isOfFile_of_withMode_error failed
  | overwrite path | append path bytes | makeDirectory path =>
    exact isOfFile_of_changing_error failed
  | flush path | sync path | close path => cases failed
  | rename source target | remove path | isDirectory path =>
    simp only [World.onFile, World.ofFiles, World.empty, FileFaults.none] at failed
    split at failed
    · cases failed
    · cases failed
      exact Failure.isOfFile_ofFile _ _
  | read path =>
    simp only [World.onFile] at failed
    cases found : (World.ofFiles tree).tree.read path with
    | ok bytes =>
      rw [found] at failed
      cases failed
    | error fault =>
      rw [found] at failed
      cases failed
      exact Failure.isOfFile_ofFile _ _

end World

/-- **An operation on files fails** because it is refused, or because of the files. -/
theorem Surroundings.isOfFile_of_error {surroundings : Surroundings} {scene : Scene}
    {action : FileAction} {failure : Failure}
    (failed : (surroundings.onFile scene action).1 = .error failure) :
    surroundings.refusals.of scene.writes action = some failure ∨ failure.isOfFile = true := by
  unfold Surroundings.onFile at failed
  split at failed
  · rename_i refused
    cases failed
    exact Or.inl refused
  · exact Or.inr (World.isOfFile_of_error failed)

/-! ### Removing a file -/

/-- A path that the system takes unless it is too long: it has bytes, and none of them is zero. -/
def Path.IsUsable (path : Path) : Prop :=
  path.unnameable? = none ∧ 0 ∉ path.bytes

instance (path : Path) : Decidable path.IsUsable := by
  unfold Path.IsUsable; infer_instance

namespace FileTree

variable {tree : FileTree} {path : Path} {fault : FileFault}

/-- Whether a fault has an error number of the system. -/
def IsNumbered : FileFault → Prop
  | .nullCharacter | .unencodable _ => False
  | _ => True

theorem numbered_of_walk {here : Location} {names : List Text.FileName}
    (failed : tree.walk here names = .error fault) : IsNumbered fault := by
  induction names generalizing here with
  | nil => cases failed
  | cons name names ih =>
    unfold walk at failed
    split at failed
    · exact ih failed
    · split at failed
      · cases failed
        trivial
      · split at failed
        · exact ih failed
        · cases failed
          trivial
        · cases failed
          trivial

theorem numbered_of_locate (usable : path.IsUsable) (failed : tree.locate path = .error fault) :
    IsNumbered fault := by
  have named : ∀ {fault}, systemNames path = .error fault → IsNumbered fault := by
    intro fault refused
    have free : path.bytes.contains 0 = false := by simpa using usable.2
    unfold systemNames at refused
    rw [usable.1, free] at refused
    simp only [Bool.false_eq_true, if_false] at refused
    split at refused
    · cases refused
      trivial
    · cases refused
  have placed : ∀ {fault}, tree.placeOf path = .error fault → IsNumbered fault := by
    intro fault refused
    unfold placeOf at refused
    split at refused
    · rename_i unnamed
      cases refused
      exact named unnamed
    · split at refused
      · cases refused
      · have mapped : ∀ {found : Except FileFault Location} {place : Location → Place},
            found.map place = .error fault → found = .error fault := by
          intro found place same
          cases found with
          | ok location => cases same
          | error other =>
            cases same
            rfl
        split at refused
        · exact numbered_of_walk (mapped refused)
        · exact numbered_of_walk (mapped refused)
  unfold locate at failed
  split at failed
  · split at failed
    · cases failed
      trivial
    · cases failed
  · exact placed failed

/-- A path that the system does not take leads to no file. -/
theorem exists_fault_of_unusable (unusable : ¬ path.IsUsable) (tree : FileTree) :
    ∃ fault, tree.remove path = .error fault ∧ ¬ IsNumbered fault := by
  have unnamed : ∀ {fault}, systemNames path = .error fault → tree.remove path = .error fault := by
    intro fault unnamed
    rw [remove, locate, placeOf, unnamed]
  cases encoded : path.unnameable? with
  | some fault =>
    refine ⟨.unencodable fault, unnamed ?_, id⟩
    rw [systemNames, encoded]
  | none =>
    have null : path.bytes.contains 0 = true :=
      List.contains_iff_mem.mpr (by_contra fun free => unusable ⟨encoded, free⟩)
    refine ⟨.nullCharacter, unnamed ?_, id⟩
    rw [systemNames, encoded]
    simp only [null, if_true]

theorem numbered_of_remove (usable : path.IsUsable) (failed : tree.remove path = .error fault) :
    IsNumbered fault := by
  unfold remove at failed
  split at failed
  · rename_i missed
    cases failed
    exact numbered_of_locate usable missed
  · cases failed
    trivial
  · split at failed
    · cases failed
      trivial
    · cases failed
    · cases failed
      trivial

end FileTree

namespace Surroundings

variable {surroundings : Surroundings} {scene : Scene} {path : Path} {failure : Failure}

/-- The system reports what comes of the removal of a file: it is refused, or its path is one that
the system takes. -/
def TakesRemoval (surroundings : Surroundings) (path : Path) : Prop :=
  surroundings.refusals.remove ≠ none ∨ path.IsUsable

/-- **The removal of a file fails as the system reports**, if that is what refusals are like. -/
theorem isSystem_of_remove_error (taken : surroundings.TakesRemoval path)
    (refused : ∀ failure, surroundings.refusals.remove = some failure → failure.isSystem = true)
    (failed : (surroundings.onFile scene (.remove path)).1 = .error failure) :
    failure.isSystem = true := by
  unfold onFile at failed
  split at failed
  · rename_i refusal
    cases failed
    exact refused _ refusal
  · rename_i unrefused
    simp only [World.onFile, World.ofFiles, World.empty, FileFaults.none] at failed
    split at failed
    · cases failed
    · rename_i fault missed
      cases failed
      have usable := taken.resolve_left fun refusal => refusal unrefused
      have numbered := FileTree.numbered_of_remove usable missed
      cases fault with
      | nullCharacter | unencodable => exact numbered.elim
      | _ => rfl

/-- **Otherwise the removal always fails**, and not as the system reports. -/
theorem exists_of_untaken (untaken : ¬ surroundings.TakesRemoval path) :
    ∃ failure, (surroundings.onFile scene (.remove path)).1 = .error failure
      ∧ failure.isOfFile = true ∧ failure.isSystem = false := by
  obtain ⟨unrefused, unusable⟩ := not_or.mp untaken
  have allowed : surroundings.refusals.of scene.writes (.remove path) = none :=
    not_not.mp unrefused
  obtain ⟨fault, missed, unnumbered⟩ :=
    FileTree.exists_fault_of_unusable unusable scene.tree
  refine ⟨.ofFile [path] fault, ?_, Failure.isOfFile_ofFile _ _, ?_⟩
  · simp only [onFile, allowed, World.onFile, World.ofFiles, World.empty, FileFaults.none, missed]
  · cases fault with
    | nullCharacter | unencodable => rfl
    | _ => exact absurd trivial unnumbered

end Surroundings

end AssetFetch
