/-
**Directories that are there, and directories that are made.**

* `status_eq_directory_iff`: a path names a directory exactly where the walk through all its names
  arrives; so a directory stays one as long as the directories stay (`status_of_directories`), and
  what is in it is named by one more name (`placeOf_in`);
* `Grown`: nothing is lost and only directories are new;
* `attempt_ensureDirectory_of_there`: where a directory is there, nothing is made;
* `grownTo_ensureDirectory`, `status_of_ensured`: **making a directory adds directories only, and in
  the end it is there.**
-/

import AssetFetch.Proofs.FileTree
import AssetFetch.Proofs.Runs

namespace AssetFetch

namespace FileTree

variable {tree other : FileTree} {path inside : Path} {location : Location}
  {names : List Text.FileName}

/-! ### Where directories are -/

section There

/-- A name leads on if it is the name of a directory. -/
theorem walk_singleton_of_down {here : Location} {name : Text.FileName} (down : name ≠ "..") :
    tree.walk here [name] = .ok location
      ↔ isTooLong name = false ∧ tree.get? (here ++ [name]) = some .directory
        ∧ location = here ++ [name] := by
  have level : (name == "..") = false := beq_eq_false_iff_ne.mpr down
  simp only [walk, level, Bool.false_eq_true, if_false]
  by_cases long : isTooLong name = true
  · simp [long]
  · rw [if_neg long]
    split
    · rename_i there
      simp [long, there, eq_comm]
    · rename_i there
      simp [there]
    · rename_i absent
      simp [absent]

theorem endsTooLong_append (here : Location) (name : Text.FileName) :
    endsTooLong (here ++ [name]) = isTooLong name := by
  simp [endsTooLong]

/-- **A path names a directory exactly where the walk through all its names arrives.** -/
theorem status_eq_directory_iff :
    tree.status path = .ok .directory
      ↔ ∃ names place, systemNames path = .ok names
          ∧ tree.walk (startOf path) names = .ok place := by
  cases encoded : systemNames path with
  | error fault => simp [status, locate, placeOf, encoded]
  | ok names =>
    simp only [status, locate, placeOf, encoded, Except.ok.injEq, exists_eq_left', exists_and_left]
    cases last : names.getLast? with
    | none =>
      rw [List.getLast?_eq_none_iff] at last
      simp [last, walk]
    | some name =>
      have whole : names = names.dropLast ++ [name] :=
        (List.dropLast_append_getLast? name last).symm
      by_cases up : name = ".."
      · simp only [up, BEq.rfl, if_true]
        cases walked : tree.walk (startOf path) names with
        | error fault => simp [Except.map]
        | ok place => simp [Except.map]
      · have level : (name == "..") = false := beq_eq_false_iff_ne.mpr up
        have split : tree.walk (startOf path) names
            = tree.walk (startOf path) names.dropLast >>= fun place => tree.walk place [name] := by
          conv_lhs => rw [whole]
          exact walk_append ..
        rw [split]
        simp only [level, Bool.false_eq_true, if_false]
        cases walked : tree.walk (startOf path) names.dropLast with
        | error fault => simp [Except.map, bind, Except.bind]
        | ok directory =>
          have here : ∀ place, tree.walk directory [name] = .ok place
              ↔ isTooLong name = false ∧ tree.get? (directory ++ [name]) = some .directory
                ∧ place = directory ++ [name] := fun _ => walk_singleton_of_down up
          simp only [Except.map, bind, Except.bind, here, endsTooLong_append]
          cases long : isTooLong name with
          | true => simp
          | false => cases found : tree.get? (directory ++ [name]) <;> simp [found]

/-- **A directory stays one as long as the directories stay.** -/
theorem status_of_directories
    (kept : ∀ place, tree.get? place = some .directory → other.get? place = some .directory)
    (there : tree.status path = .ok .directory) : other.status path = .ok .directory := by
  obtain ⟨names, place, encoded, walked⟩ := status_eq_directory_iff.mp there
  exact status_eq_directory_iff.mpr ⟨names, place, encoded, walk_of_directories kept walked⟩

/-- **What is in a directory is named by one more name**, in every tree with this directory. -/
theorem placeOf_in (there : tree.status path = .ok .directory) {name : Text.LooseText}
    (below : inside.parent = path) (last : inside.names.getLast? = some name)
    (down : name.fileName ≠ "..") (encoded : systemNames inside = .ok names) :
    ∃ place, tree.placeOf inside = .ok (.named (place ++ [name.fileName]))
      ∧ tree.walk (startOf path) (path.names.map Text.LooseText.fileName) = .ok place := by
  obtain ⟨above, place, handed, walked⟩ := status_eq_directory_iff.mp there
  rw [systemNames_eq_ok handed] at walked
  have front : names.dropLast = path.names.map Text.LooseText.fileName := by
    rw [systemNames_eq_ok encoded, ← List.map_dropLast, ← below]
    rfl
  have final : names.getLast? = some name.fileName := by
    rw [systemNames_eq_ok encoded, List.getLast?_map, last]
    rfl
  have start : startOf inside = startOf path := by
    rw [← below]
    rfl
  refine ⟨place, placeOf_eq_named_iff.mpr ?_, walked⟩
  exact ⟨names, name.fileName, place, encoded, final, down, by rw [front, start, walked], rfl⟩

end There

/-! ### Trees that grow by directories -/

section Grown

/-- Nothing is lost, and only directories are new. -/
def Grown (before after : FileTree) : Prop :=
  ∀ place, after.get? place = before.get? place
    ∨ (before.get? place = none ∧ after.get? place = some .directory)

theorem Grown.refl (tree : FileTree) : tree.Grown tree := fun _ => .inl rfl

theorem Grown.trans {first second third : FileTree} (left : first.Grown second)
    (right : second.Grown third) : first.Grown third := by
  intro place
  rcases right place with same | ⟨absent, there⟩
  · rw [same]
    exact left place
  · rcases left place with equal | ⟨_, made⟩
    · exact .inr ⟨equal ▸ absent, there⟩
    · rw [made] at absent
      cases absent

theorem Grown.directories {before after : FileTree} (grown : before.Grown after) :
    ∀ place, before.get? place = some .directory → after.get? place = some .directory := by
  intro place there
  rcases grown place with same | ⟨_, made⟩
  · rw [same, there]
  · exact made

/-- Where nothing is afterwards, nothing was before. -/
theorem Grown.absent {before after : FileTree} (grown : before.Grown after)
    (absent : after.get? location = none) : before.get? location = none := by
  rcases grown location with same | ⟨none, _⟩
  · rw [← same, absent]
  · exact none

theorem grown_put (absent : tree.get? location = none) :
    tree.Grown (tree.put location .directory) := by
  intro place
  by_cases same : place = location
  · subst same
    have apart : tree.get? place ≠ some .directory := by simp [absent]
    exact .inr ⟨absent, get?_put_self (not_given_of_ne_directory apart)⟩
  · exact .inl (get?_put_of_ne same)

theorem makeDirectory_eq_ok_iff {after : FileTree} :
    tree.makeDirectory path = .ok after
      ↔ ∃ place, tree.Vacant path place ∧ after = tree.put place .directory := by
  unfold makeDirectory
  constructor
  · intro made
    split at made
    · cases made
    · cases made
    · rename_i place located
      split at made
      · cases made
      · rename_i absent
        cases made
        exact ⟨place, ⟨located, absent⟩, rfl⟩
  · rintro ⟨place, ⟨located, absent⟩, rfl⟩
    simp only [located, absent]

/-- Where a directory is, none can be made. -/
theorem makeDirectory_of_there (there : tree.status path = .ok .directory) :
    tree.makeDirectory path = .error .alreadyThere := by
  unfold status at there
  unfold makeDirectory
  split at there
  · cases there
  · rfl
  · split at there
    · cases there
      rfl
    · cases there

end Grown

end FileTree

/-! ### Making directories in a world -/

namespace World

variable {world later : World} {path : Path}

section Making

open Files

/-- What asks about directories and makes them. -/
def IsDirectoryWork : Effect → Prop
  | .file (.makeDirectory _) => True
  | .file (.isDirectory _) => True
  | _ => False

/-- Only the files differ, and these by directories. -/
def GrownTo (before after : World) : Prop :=
  ∃ tree, after = before.withTree tree ∧ before.tree.Grown tree

theorem GrownTo.refl (world : World) : world.GrownTo world := ⟨world.tree, rfl, .refl _⟩

theorem GrownTo.grown {before after : World} (grownTo : before.GrownTo after) :
    before.tree.Grown after.tree := by
  obtain ⟨tree, rfl, grown⟩ := grownTo
  exact grown

theorem GrownTo.trans {first second third : World} (left : first.GrownTo second)
    (right : second.GrownTo third) : first.GrownTo third := by
  obtain ⟨tree, rfl, grown⟩ := left
  obtain ⟨last, rfl, more⟩ := right
  exact ⟨last, rfl, grown.trans more⟩

theorem grownTo_answer (effect : Effect) (directories : IsDirectoryWork effect) :
    world.GrownTo (world.answer effect).2 := by
  cases effect with
  | file action =>
    cases action with
    | makeDirectory path =>
      have made : (world.answer (.file (.makeDirectory path))).2
          = (world.changing [path] (world.tree.makeDirectory path)).2 := rfl
      rw [made]
      cases outcome : world.tree.makeDirectory path with
      | error fault => exact .refl world
      | ok tree =>
        obtain ⟨place, vacant, rfl⟩ := FileTree.makeDirectory_eq_ok_iff.mp outcome
        exact ⟨_, rfl, FileTree.grown_put vacant.2⟩
    | isDirectory path =>
      have asked : (world.answer (.file (.isDirectory path))).2 = world := by
        simp only [answer, onFile]
        split <;> rfl
      rw [asked]
      exact .refl world
    | _ => exact directories.elim
  | _ => exact directories.elim

theorem only_isDirectory (path : Path) : (isDirectory path).Only IsDirectoryWork :=
  .orElse (.perform trivial) fun _ => .ite (.pure _) (.throw _)

theorem only_ensureOne {otherwise : Failure → Action Unit}
    (other : ∀ failure, (otherwise failure).Only IsDirectoryWork) (path : Path) :
    (ensureOne path otherwise).Only IsDirectoryWork :=
  .orElse (.perform trivial) fun failure =>
    .ite (other failure) (.ite (.bind (only_isDirectory path) fun _ => .ite (.pure _) (.throw _))
      (.throw _))

theorem only_ensureAbove (slashes : Nat) (reversed : List Text.LooseText) :
    (ensureAbove slashes reversed).Only IsDirectoryWork := by
  induction reversed with
  | nil => exact only_ensureOne (fun failure => .throw failure) _
  | cons name above ih =>
    exact only_ensureOne
      (fun _ => .bind ih fun _ => only_ensureOne (fun failure => .throw failure) _) _

theorem only_ensureDirectory (path : Path) : (ensureDirectory path).Only IsDirectoryWork :=
  only_ensureAbove path.slashes path.names.reverse

/-- **What asks about directories and makes them** changes nothing but the files, and these by
directories. -/
theorem grownTo_of_only {α : Type} {action : Action α} (only : action.Only IsDirectoryWork)
    (world : World) : world.GrownTo (world.attempt action).2 :=
  related_run GrownTo GrownTo.refl GrownTo.trans (fun _ => grownTo_answer) only world

theorem grownTo_ensureDirectory (path : Path) (world : World) :
    world.GrownTo (world.attempt (ensureDirectory path)).2 :=
  grownTo_of_only (only_ensureDirectory path) world

theorem attempt_status_of_ok {entry : Entry} (there : world.tree.status path = .ok entry) :
    world.attempt (status path) = (.ok (entry == .directory), world) := by
  show world.onFile (.isDirectory path) = _
  simp only [onFile, there]
  rfl

theorem attempt_status_of_error {fault : FileFault}
    (absent : world.tree.status path = .error fault) :
    world.attempt (status path) = (.error (.ofFile [path] fault), world) := by
  show world.onFile (.isDirectory path) = _
  simp only [onFile, absent]
  rfl

theorem attempt_exists?_of_there {entry : Entry} (there : world.tree.status path = .ok entry) :
    world.attempt (exists? path) = (.ok true, world) := by
  have dropped : world.attempt (discard (status path)) = (.ok (), world) :=
    attempt_bind_of_ok (attempt_status_of_ok there)
  have asked : world.attempt (do discard (status path); return true : Action Bool)
      = (.ok true, world) := attempt_bind_of_ok dropped
  rw [exists?, attempt_orElse, asked]

/-- What cannot be looked up is not there, or the lookup fails with what has happened. -/
theorem attempt_exists?_of_error {fault : FileFault}
    (absent : world.tree.status path = .error fault) :
    world.attempt (exists? path)
      = (if saysNothingThere (.ofFile [path] fault) then .ok false
          else .error (.ofFile [path] fault), world) := by
  have dropped : world.attempt (discard (status path)) = (.error (.ofFile [path] fault), world) :=
    attempt_bind_of_error (attempt_status_of_error absent)
  have asked : world.attempt (do discard (status path); return true : Action Bool)
      = (.error (.ofFile [path] fault), world) := attempt_bind_of_error dropped
  rw [exists?, attempt_orElse, asked]
  by_cases nothing : saysNothingThere (.ofFile [path] fault) = true
  · simp only [if_pos nothing]
    rfl
  · simp only [if_neg nothing]
    rfl

/-- A path that names nothing names nothing. -/
theorem attempt_exists?_of_notFound (absent : world.tree.status path = .error .notFound) :
    world.attempt (exists? path) = (.ok false, world) :=
  attempt_exists?_of_error absent

theorem attempt_isDirectory_of_there (there : world.tree.status path = .ok .directory) :
    world.attempt (isDirectory path) = (.ok true, world) := by
  rw [isDirectory, attempt_orElse, attempt_status_of_ok there]
  rfl

/-- **Where a directory is there, nothing is made.** -/
theorem attempt_ensureOne_of_there (there : world.tree.status path = .ok .directory)
    (otherwise : Failure → Action Unit) :
    world.attempt (ensureOne path otherwise) = (.ok (), world) := by
  have refused : world.attempt (makeDirectory path)
      = (.error (.ofFile [path] .alreadyThere), world) := by
    show world.onFile (.makeDirectory path) = _
    simp only [onFile, FileTree.makeDirectory_of_there there]
    rfl
  rw [ensureOne, attempt_orElse, refused]
  exact attempt_bind_of_ok (attempt_isDirectory_of_there there)

theorem attempt_ensureDirectory_of_there (there : world.tree.status path = .ok .directory) :
    world.attempt (ensureDirectory path) = (.ok (), world) := by
  unfold ensureDirectory
  cases reversed : path.names.reverse with
  | nil =>
    have names : path.names = [] := List.reverse_eq_nil_iff.mp reversed
    have same : path = ⟨path.slashes, []⟩ := by rw [← names]
    exact attempt_ensureOne_of_there (same ▸ there) _
  | cons name above =>
    have same : path = ⟨path.slashes, (name :: above).reverse⟩ := by
      rw [← reversed, List.reverse_reverse]
    exact attempt_ensureOne_of_there (same ▸ there) _

/-- What is answered to be a directory is one. -/
theorem status_of_isDirectory (asked : world.attempt (isDirectory path) = (.ok true, later)) :
    later.tree.status path = .ok .directory := by
  have reply : world.attempt (status path) = world.onFile (.isDirectory path) := rfl
  rw [isDirectory, attempt_orElse, reply] at asked
  simp only [onFile] at asked
  cases found : world.tree.status path with
  | ok entry =>
    rw [found] at asked
    cases entry with
    | directory =>
      cases asked
      exact found
    | file content mode => cases asked
  | error fault =>
    rw [found] at asked
    simp only at asked
    split at asked <;> cases asked

theorem throw_ne_ok (failure : Failure) (world later : World) :
    world.attempt (throw failure : Action Unit) ≠ (.ok (), later) := by
  intro ok
  cases congrArg Prod.fst ok

/-- A directory that has been made by itself is there, if what is done otherwise makes it. -/
theorem status_of_ensuredOne {otherwise : Failure → Action Unit}
    (other : ∀ (failure : Failure) (world : World),
      world.attempt (otherwise failure) = (.ok (), later) →
        later.tree.status path = .ok .directory)
    (ensured : world.attempt (ensureOne path otherwise) = (.ok (), later)) :
    later.tree.status path = .ok .directory := by
  have reply : world.attempt (makeDirectory path) = world.onFile (.makeDirectory path) := rfl
  rw [ensureOne, attempt_orElse, reply] at ensured
  simp only [onFile] at ensured
  cases made : world.tree.makeDirectory path with
  | ok tree =>
    rw [made] at ensured
    cases ensured
    obtain ⟨place, vacant, rfl⟩ := FileTree.makeDirectory_eq_ok_iff.mp made
    exact vacant.status_put .directory
  | error fault =>
    rw [made] at ensured
    simp only [changing] at ensured
    split at ensured
    · exact other _ _ ensured
    · split at ensured
      · rw [attempt_bind] at ensured
        split at ensured
        · rename_i there _ asked
          cases there with
          | true =>
            have there := status_of_isDirectory asked
            cases ensured
            exact there
          | false => cases ensured
        · cases ensured
      · cases ensured

/-- **A directory that has been made is there.** -/
theorem status_of_ensured (ensured : world.attempt (ensureDirectory path) = (.ok (), later)) :
    later.tree.status path = .ok .directory := by
  unfold ensureDirectory at ensured
  cases reversed : path.names.reverse with
  | nil =>
    have names : path.names = [] := List.reverse_eq_nil_iff.mp reversed
    have same : path = ⟨path.slashes, []⟩ := by rw [← names]
    rw [reversed] at ensured
    rw [same]
    exact status_of_ensuredOne (fun _ _ thrown => (throw_ne_ok _ _ _ thrown).elim) ensured
  | cons name above =>
    have same : path = ⟨path.slashes, (name :: above).reverse⟩ := by
      rw [← reversed, List.reverse_reverse]
    rw [reversed] at ensured
    rw [same]
    refine status_of_ensuredOne (fun failure world again => ?_) ensured
    rw [attempt_bind] at again
    split at again
    · exact status_of_ensuredOne (fun _ _ thrown => (throw_ne_ok _ _ _ thrown).elim) again
    · cases again

end Making

end World

end AssetFetch
