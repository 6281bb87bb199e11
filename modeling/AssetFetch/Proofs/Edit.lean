/-
**The same operation on two trees.**

Two trees may differ in files while the same directories are in both. An operation on one file, or
the rename of that file to a destination beside it, then meets the same in both trees as long as
they agree on that file: it replies the same, and what it changes is the same.

* `Edit`, `Edit.apply`: what one operation changes, apart from the tree it is done to;
* `Siblings`: trees in which the paths of one directory name the same places, closed under edits of
  files there (`Siblings.apply`);
* `Agree.sameEdit_of_located`, `Agree.exists_edit`: an operation on one's own file is the same edit
  of both trees;
* `Agree.rename`: the rename to the destination is refused in both trees, or moves the same file.
-/

import AssetFetch.Proofs.Draft

namespace AssetFetch

namespace FileTree

/-! ### Edits -/

/-- What an operation changes in a tree: nothing, one file, or a file that goes to another place. -/
inductive Edit where
  | keep
  | write (location : Location) (content : Bytes) (mode : Nat)
  | clear (location : Location)
  | move (source target : Location) (content : Bytes) (mode : Nat)

namespace Edit

/-- The tree after an edit. -/
def apply (tree : FileTree) : Edit → FileTree
  | keep => tree
  | write location content mode => tree.put location (.file content mode)
  | clear location => tree.erase location
  | move source target content mode => (tree.erase source).put target (.file content mode)

/-- The edit is one of the file that a path names. -/
def Within (tree : FileTree) (file : Path) : Edit → Prop
  | keep => True
  | write location _ _ => tree.Accepts file location
  | clear location => tree.Accepts file location
  | move _ _ _ _ => False

variable {tree other : FileTree} {file destination : Path} {edit : Edit} {place : Location}

/-- Nothing else is changed. -/
theorem Within.get?_apply (within : edit.Within tree file)
    (apart : tree.locate file ≠ .ok (.named place)) : (edit.apply other).get? place
      = other.get? place := by
  cases edit with
  | keep => rfl
  | write location content mode =>
    exact get?_put_of_ne fun same => apart (same ▸ within.1)
  | clear location => exact get?_erase_of_ne fun same => apart (same ▸ within.1)
  | move source target content mode => exact within.elim

/-- Trees that agree on the file agree on it after an edit of it. -/
theorem Within.get?_apply_own {one two : FileTree} (within : edit.Within tree file)
    (same : one.get? place = two.get? place) :
    (edit.apply one).get? place = (edit.apply two).get? place := by
  cases edit with
  | keep => exact same
  | write location content mode =>
    by_cases here : place = location
    · have free := not_given_of_ne_directory within.2
      simp only [apply, here, get?_put_self free]
    · simp only [apply, get?_put_of_ne here, same]
  | clear location =>
    by_cases here : place = location
    · have free := not_given_of_ne_directory within.2
      simp only [apply, here, get?_erase_self free]
    · simp only [apply, get?_erase_of_ne here, same]
  | move source target content mode => exact within.elim

end Edit

/-! ### Trees with the same directories -/

/-- A tree of the same user with the directories of another one, in which the paths beside a
destination name the same places. -/
structure Siblings (tree : FileTree) (destination : Path) (other : FileTree) : Prop where
  user : other.privileged = tree.privileged
  directories : ∀ place, other.get? place = some .directory ↔ tree.get? place = some .directory
  places : ∀ path, path.parent = destination.parent → other.placeOf path = tree.placeOf path

section Siblings

variable {tree other : FileTree} {file destination : Path} {location : Location} {content : Bytes}
  {mode : Nat}

theorem Siblings.refl (tree : FileTree) (destination : Path) : tree.Siblings destination tree :=
  ⟨rfl, fun _ => Iff.rfl, fun _ _ => rfl⟩

theorem Siblings.locate (siblings : tree.Siblings destination other) {path : Path}
    (parent : path.parent = destination.parent) : other.locate path = tree.locate path := by
  unfold FileTree.locate
  rw [siblings.places path parent]

/-- The paths beside a file name the same places wherever the directories are the same. -/
theorem Siblings.of_directories (parent : file.parent = destination.parent)
    (accepts : tree.Accepts file location) (user : other.privileged = tree.privileged)
    (directories : ∀ place,
      other.get? place = some .directory ↔ tree.get? place = some .directory) :
    tree.Siblings destination other where
  user
  directories
  places _ beside := placeOf_of_sibling (parent.trans beside.symm)
    (locate_eq_named_iff.mp accepts.1).1 fun place => (directories place).mpr

theorem Siblings.put (siblings : tree.Siblings destination other)
    (parent : file.parent = destination.parent) (accepts : tree.Accepts file location) :
    tree.Siblings destination (other.put location (.file content mode)) := by
  refine .of_directories parent accepts siblings.user fun place => ?_
  by_cases here : place = location
  · rw [here, get?_put_self (not_given_of_ne_directory accepts.2)]
    exact ⟨fun directory => by simp at directory, fun directory => absurd directory accepts.2⟩
  · rw [get?_put_of_ne here]
    exact siblings.directories place

theorem Siblings.erase (siblings : tree.Siblings destination other)
    (parent : file.parent = destination.parent) (accepts : tree.Accepts file location) :
    tree.Siblings destination (other.erase location) := by
  refine .of_directories parent accepts siblings.user fun place => ?_
  by_cases here : place = location
  · rw [here, get?_erase_self (not_given_of_ne_directory accepts.2)]
    exact ⟨fun directory => by simp at directory, fun directory => absurd directory accepts.2⟩
  · rw [get?_erase_of_ne here]
    exact siblings.directories place

/-- **An edit of a file keeps all the directories.** -/
theorem Siblings.apply (siblings : tree.Siblings destination other)
    (parent : file.parent = destination.parent) {edit : Edit} (within : edit.Within tree file) :
    tree.Siblings destination (edit.apply other) := by
  cases edit with
  | keep => exact siblings
  | write location content mode => exact siblings.put parent within
  | clear location => exact siblings.erase parent within
  | move source target content mode => exact within.elim

/-- The move of a file to the destination keeps them too. -/
theorem Siblings.move (siblings : tree.Siblings destination other)
    (parent : file.parent = destination.parent) {target : Location}
    (accepts : tree.Accepts file location) (placed : tree.Accepts destination target) :
    tree.Siblings destination ((other.erase location).put target (.file content mode)) :=
  (siblings.erase parent accepts).put rfl placed

/-- What the destination names depends on its entry alone. -/
theorem Siblings.status_of_get? (siblings : tree.Siblings destination other)
    (parent : file.parent = destination.parent) {one : FileTree}
    (also : tree.Siblings destination one)
    (same : ∀ place, tree.locate file = .ok (.named place) → other.get? place = one.get? place) :
    other.status file = one.status file := by
  unfold status
  rw [siblings.locate parent, also.locate parent]
  cases located : tree.locate file with
  | error fault => rfl
  | ok place =>
    cases place with
    | fixed place => rfl
    | named place => simp only [same place located]

end Siblings

end FileTree

/-! ### One operation on two trees -/

section Operations

open FileTree

variable {surroundings : Surroundings} {scene : Scene} {tree one two : FileTree}
  {file destination : Path}

/-- Two outcomes are the same fault, or the same edit of two trees. -/
def SameEdit (tree : FileTree) (file : Path) (one two : FileTree)
    (first second : Except FileFault FileTree) : Prop :=
  (∃ fault, first = .error fault ∧ second = .error fault)
    ∨ ∃ edit : Edit, edit.Within tree file ∧ first = .ok (edit.apply one)
      ∧ second = .ok (edit.apply two)

/-- Two trees that have the same directories and agree on a file beside the destination. -/
structure Agree (tree : FileTree) (file destination : Path) (one two : FileTree) : Prop where
  first : tree.Siblings destination one
  second : tree.Siblings destination two
  same : ∀ location, tree.locate file = .ok (.named location) →
    one.get? location = two.get? location

namespace Agree

variable {location : Location} {content bytes : Bytes} {mode : Nat}

/-- A file in one of them is a file, and so its place can take one. -/
theorem accepts (agree : Agree tree file destination one two)
    (located : tree.locate file = .ok (.named location))
    (free : one.get? location ≠ some .directory) : tree.Accepts file location :=
  ⟨located, fun directory => free ((agree.first.directories location).mpr directory)⟩

/-- **An operation that asks where the file is and what is there** does the same to both trees if it
does so at a place where they agree. -/
theorem sameEdit_of_located (agree : Agree tree file destination one two)
    (parent : file.parent = destination.parent) (operation : FileTree → Except FileFault FileTree)
    (nowhere : ∀ other fault, other.locate file = .error fault → operation other = .error fault)
    (fixed : ∀ place, one.locate file = .ok (.fixed place) → two.locate file = .ok (.fixed place) →
      SameEdit tree file one two (operation one) (operation two))
    (named : ∀ location, tree.locate file = .ok (.named location) →
      one.locate file = .ok (.named location) → two.locate file = .ok (.named location) →
      one.get? location = two.get? location →
      SameEdit tree file one two (operation one) (operation two)) :
    SameEdit tree file one two (operation one) (operation two) := by
  have first := agree.first.locate parent
  have second := agree.second.locate parent
  cases located : tree.locate file with
  | error fault =>
    rw [located] at first second
    exact .inl ⟨fault, nowhere one fault first, nowhere two fault second⟩
  | ok place =>
    rw [located] at first second
    cases place with
    | fixed place => exact fixed place first second
    | named location => exact named location located first second (agree.same location located)

theorem createNew (agree : Agree tree file destination one two)
    (parent : file.parent = destination.parent) (wished : Int) :
    SameEdit tree file one two (one.createNew file wished) (two.createNew file wished) := by
  refine agree.sameEdit_of_located parent (fun other => other.createNew file wished)
    (fun other fault lost => ?_) (fun place first second => ?_)
    fun location located first second same => ?_
  · simp only [FileTree.createNew, lost]
  · simp only [FileTree.createNew, first, second]
    exact .inl ⟨.alreadyThere, rfl, rfl⟩
  · simp only [FileTree.createNew, first, second, ← same]
    cases found : one.get? location with
    | some entry => exact .inl ⟨.alreadyThere, rfl, rfl⟩
    | none =>
      have accepts := agree.accepts located (by rw [found]; simp)
      exact .inr ⟨.write location [] (newMode wished), accepts, rfl, rfl⟩

theorem append (agree : Agree tree file destination one two)
    (parent : file.parent = destination.parent) (bytes : Bytes) :
    SameEdit tree file one two (one.append file bytes) (two.append file bytes) := by
  refine agree.sameEdit_of_located parent (fun other => other.append file bytes)
    (fun other fault lost => ?_) (fun place first second => ?_)
    fun location located first second same => ?_
  · simp only [FileTree.append, lost]
  · simp only [FileTree.append, first, second]
    exact .inl ⟨.isDirectory, rfl, rfl⟩
  · have user : two.privileged = one.privileged := agree.second.user.trans agree.first.user.symm
    simp only [FileTree.append, appendAt, first, second, ← same, user]
    cases found : one.get? location with
    | none => exact .inr ⟨.keep, trivial, rfl, rfl⟩
    | some entry =>
      cases entry with
      | directory => exact .inr ⟨.keep, trivial, rfl, rfl⟩
      | file content mode =>
        have accepts := agree.accepts located (by rw [found]; simp)
        cases bytes with
        | nil => exact .inr ⟨.keep, trivial, rfl, rfl⟩
        | cons first rest =>
          exact .inr ⟨.write location (content ++ first :: rest)
            (modeAfterWriting one.privileged mode), accepts, rfl, rfl⟩

theorem setMode (agree : Agree tree file destination one two)
    (parent : file.parent = destination.parent) (wished : Int) :
    SameEdit tree file one two (one.setMode file wished) (two.setMode file wished) := by
  refine agree.sameEdit_of_located parent (fun other => other.setMode file wished)
    (fun other fault lost => ?_) (fun place first second => ?_)
    fun location located first second same => ?_
  · simp only [FileTree.setMode, lost]
  · simp only [FileTree.setMode, first, second]
    exact .inr ⟨.keep, trivial, rfl, rfl⟩
  · simp only [FileTree.setMode, first, second, ← same]
    cases found : one.get? location with
    | none => exact .inl ⟨.notFound, rfl, rfl⟩
    | some entry =>
      cases entry with
      | directory => exact .inr ⟨.keep, trivial, rfl, rfl⟩
      | file content mode =>
        have accepts := agree.accepts located (by rw [found]; simp)
        exact .inr ⟨.write location content (modeBits wished), accepts, rfl, rfl⟩

theorem remove (agree : Agree tree file destination one two)
    (parent : file.parent = destination.parent) :
    SameEdit tree file one two (one.remove file) (two.remove file) := by
  refine agree.sameEdit_of_located parent (fun other => other.remove file)
    (fun other fault lost => ?_) (fun place first second => ?_)
    fun location located first second same => ?_
  · simp only [FileTree.remove, lost]
  · simp only [FileTree.remove, first, second]
    exact .inl ⟨.isDirectory, rfl, rfl⟩
  · simp only [FileTree.remove, first, second, ← same]
    cases found : one.get? location with
    | none => exact .inl ⟨.notFound, rfl, rfl⟩
    | some entry =>
      cases entry with
      | directory => exact .inl ⟨.isDirectory, rfl, rfl⟩
      | file content mode =>
        have accepts := agree.accepts located (by rw [found]; simp)
        exact .inr ⟨.clear location, accepts, rfl, rfl⟩

end Agree

/-- Two worlds reply the same, and their files are the same edit of two trees. -/
def BothReply (tree : FileTree) (file : Path) (one two : FileTree) {α : Type}
    (first second : Except Failure α × World) : Prop :=
  first.1 = second.1 ∧ ∃ edit : Edit, edit.Within tree file ∧ first.2.tree = edit.apply one
    ∧ second.2.tree = edit.apply two

/-- What fails without a look at the files. -/
theorem BothReply.error {α : Type} (failure : Failure) :
    BothReply (α := α) tree file one two (.error failure, .ofFiles one)
      (.error failure, .ofFiles two) :=
  ⟨rfl, .keep, trivial, rfl, rfl⟩

theorem SameEdit.changing {first second : Except FileFault FileTree}
    (same : SameEdit tree file one two first second) (paths : List Path) :
    BothReply tree file one two ((World.ofFiles one).changing paths first)
      ((World.ofFiles two).changing paths second) := by
  rcases same with ⟨fault, rfl, rfl⟩ | ⟨edit, within, rfl, rfl⟩
  · exact ⟨rfl, .keep, trivial, rfl, rfl⟩
  · exact ⟨rfl, edit, within, rfl, rfl⟩

theorem SameEdit.withMode {first second : Int → Except FileFault FileTree}
    (same : ∀ mode, SameEdit tree file one two (first mode) (second mode)) (path : Path)
    (wish : Given Int) :
    BothReply tree file one two ((World.ofFiles one).withMode path wish first)
      ((World.ofFiles two).withMode path wish second) := by
  unfold World.withMode
  split
  · exact .error _
  · exact .error _
  · exact (same _).changing _
  · exact .error _
  · split
    · exact .error _
    · exact (same _).changing _

/-- **An operation on one's own file does the same to two trees that agree on it.** -/
theorem Agree.onFile (agree : Agree tree file destination one two)
    (parent : file.parent = destination.parent) {action : FileAction} (own : action.IsOn file) :
    BothReply tree file one two ((World.ofFiles one).onFile action)
      ((World.ofFiles two).onFile action) := by
  cases action with
  | create path wish =>
    obtain rfl : path = file := own
    exact SameEdit.withMode (agree.createNew parent) path wish
  | append path bytes =>
    obtain rfl : path = file := own
    exact (agree.append parent bytes).changing [path]
  | setMode path mode =>
    obtain rfl : path = file := own
    exact SameEdit.withMode (agree.setMode parent) path (.value mode)
  | flush path | sync path | close path => exact ⟨rfl, .keep, trivial, rfl, rfl⟩
  | remove path =>
    obtain rfl : path = file := own
    have same := agree.remove parent
    simp only [World.onFile, World.ofFiles, World.empty, FileFaults.none]
    rcases same with ⟨fault, refused, also⟩ | ⟨edit, within, done, too⟩
    · rw [refused, also]
      exact ⟨rfl, .keep, trivial, rfl, rfl⟩
    · rw [done, too]
      exact ⟨rfl, edit, within, rfl, rfl⟩
  | overwrite _ | rename _ _ | makeDirectory _ | isDirectory _ | read _ => exact own.elim

/-- The same where some operations are refused for other reasons. -/
theorem Agree.exists_edit (agree : Agree tree file destination one two)
    (parent : file.parent = destination.parent) {action : FileAction} (own : action.IsOn file)
    (surroundings : Surroundings) (scene : Scene) :
    ∃ reply, ∃ edit : Edit, edit.Within tree file
      ∧ surroundings.onFile { scene with tree := one } action = (reply, edit.apply one)
      ∧ surroundings.onFile { scene with tree := two } action = (reply, edit.apply two) := by
  unfold Surroundings.onFile
  cases surroundings.refusals.of scene.writes action with
  | some failure => exact ⟨.error failure, .keep, trivial, rfl, rfl⟩
  | none =>
    obtain ⟨replies, edit, within, first, second⟩ := agree.onFile parent own
    exact ⟨_, edit, within, Prod.ext rfl first, Prod.ext replies.symm second⟩

/-- A rename between two places in one directory, told by the entries alone. -/
theorem rename_of_places {other : FileTree} {source target : Location}
    (first : other.placeOf file = .ok (.named source))
    (second : other.placeOf destination = .ok (.named target)) (apart : target ≠ source) :
    other.rename file destination
      = if endsTooLong source then .error .nameTooLong
        else match other.get? source with
          | none => .error .notFound
          | some entry =>
            if other.get? target = some .directory then .error .isDirectory
            else if endsTooLong target then .error .nameTooLong
            else .ok ((other.erase source).put target entry) := by
  have differ : (source == target) = false := beq_eq_false_iff_ne.mpr (Ne.symm apart)
  unfold FileTree.rename
  simp only [first, second, differ, Bool.false_eq_true, if_false]
  cases other.get? source with
  | none => rfl
  | some entry =>
    cases other.get? target with
    | none => simp
    | some held => cases held <;> simp

/-- Two trees in which the paths lead to the same places refuse a rename alike, unless both places
have names. -/
theorem rename_error_or_named (first : one.placeOf file = two.placeOf file)
    (second : one.placeOf destination = two.placeOf destination) :
    (∃ fault, one.rename file destination = .error fault
        ∧ two.rename file destination = .error fault)
      ∨ ∃ source target, one.placeOf file = .ok (.named source)
        ∧ one.placeOf destination = .ok (.named target) := by
  unfold FileTree.rename
  rw [← first, ← second]
  cases one.placeOf file with
  | error fault => exact .inl ⟨fault, rfl, rfl⟩
  | ok place =>
    cases one.placeOf destination with
    | error fault =>
      refine .inl ⟨fault, ?_, ?_⟩
      · cases place <;> rfl
      · cases place <;> rfl
    | ok aim =>
      cases place with
      | fixed place =>
        refine .inl ⟨.busy, ?_, ?_⟩
        · cases aim <;> rfl
        · cases aim <;> rfl
      | named source =>
        cases aim with
        | fixed aim => exact .inl ⟨.busy, rfl, rfl⟩
        | named target => exact .inr ⟨source, target, rfl, rfl⟩

/-- **The rename to the destination is refused in both trees, or it moves the same file.** -/
theorem Agree.rename (agree : Agree tree file destination one two)
    (beside : Beside file destination)
    (unused : ∀ location, tree.locate file = .ok (.named location) → tree.get? location = none) :
    (∃ fault, one.rename file destination = .error fault
        ∧ two.rename file destination = .error fault)
      ∨ ∃ source target content mode, tree.Accepts file source ∧ tree.Accepts destination target
        ∧ one.get? source = some (.file content mode)
        ∧ one.rename file destination
          = .ok ((one.erase source).put target (.file content mode))
        ∧ two.rename file destination
          = .ok ((two.erase source).put target (.file content mode)) := by
  have first := agree.first.places file beside.parent
  have second := agree.second.places file beside.parent
  have firstTarget := agree.first.places destination rfl
  have secondTarget := agree.second.places destination rfl
  rcases rename_error_or_named (first.trans second.symm) (firstTarget.trans secondTarget.symm)
    with refused | ⟨source, target, placed, aimed⟩
  · exact .inl refused
  have apart := ne_of_name_ne beside.name (first ▸ placed) (firstTarget ▸ aimed)
  have placedToo := second.trans (first ▸ placed)
  have aimedToo := secondTarget.trans (firstTarget ▸ aimed)
  rw [rename_of_places placed aimed apart, rename_of_places placedToo aimedToo apart]
  by_cases long : endsTooLong source = true
  · exact .inl ⟨.nameTooLong, if_pos long, if_pos long⟩
  have located : tree.locate file = .ok (.named source) :=
    locate_eq_named_iff.mpr ⟨first ▸ placed, by simpa using long⟩
  have free : tree.get? source ≠ some .directory := by simp [unused source located]
  simp only [if_neg long, ← agree.same source located, agree.first.directories,
    agree.second.directories]
  cases found : one.get? source with
  | none => exact .inl ⟨.notFound, rfl, rfl⟩
  | some entry =>
    cases entry with
    | directory => exact absurd ((agree.first.directories source).mp found) free
    | file content mode =>
      by_cases directory : tree.get? target = some .directory
      · exact .inl ⟨.isDirectory, if_pos directory, if_pos directory⟩
      by_cases far : endsTooLong target = true
      · exact .inl ⟨.nameTooLong, by simp only [if_neg directory, if_pos far],
          by simp only [if_neg directory, if_pos far]⟩
      have accepted : tree.locate destination = .ok (.named target) :=
        locate_eq_named_iff.mpr ⟨firstTarget ▸ aimed, by simpa using far⟩
      refine .inr ⟨source, target, content, mode, ⟨located, free⟩, ⟨accepted, directory⟩,
        found, ?_, ?_⟩
      · simp only [if_neg directory, if_neg far]
      · simp only [if_neg directory, if_neg far]

/-- The same where a rename may be refused for other reasons. -/
theorem Agree.exists_move (agree : Agree tree file destination one two)
    (beside : Beside file destination)
    (unused : ∀ location, tree.locate file = .ok (.named location) → tree.get? location = none)
    (surroundings : Surroundings) (scene : Scene) :
    (∃ failure,
        surroundings.onFile { scene with tree := one } (.rename file destination)
          = (.error failure, one)
        ∧ surroundings.onFile { scene with tree := two } (.rename file destination)
          = (.error failure, two))
      ∨ ∃ source target content mode, tree.Accepts file source ∧ tree.Accepts destination target
        ∧ one.get? source = some (.file content mode)
        ∧ surroundings.onFile { scene with tree := one } (.rename file destination)
          = (.ok (), (one.erase source).put target (.file content mode))
        ∧ surroundings.onFile { scene with tree := two } (.rename file destination)
          = (.ok (), (two.erase source).put target (.file content mode)) := by
  cases free : surroundings.refusals.rename with
  | some failure =>
    exact .inl ⟨failure, onFile_of_refused free, onFile_of_refused free⟩
  | none =>
    rcases agree.rename beside unused with ⟨fault, first, second⟩
      | ⟨source, target, content, mode, accepts, placed, found, first, second⟩
    · refine .inl ⟨.ofFile [file, destination] fault, ?_, ?_⟩
      · rw [onFile_eq_iff_of_free (by exact free)]
        simp [World.onFile, World.ofFiles, World.empty, FileFaults.none, first]
      · rw [onFile_eq_iff_of_free (by exact free)]
        simp [World.onFile, World.ofFiles, World.empty, FileFaults.none, second]
    · exact .inr ⟨source, target, content, mode, accepts, placed, found,
        onFile_rename_eq_ok_iff.mpr ⟨free, first⟩, onFile_rename_eq_ok_iff.mpr ⟨free, second⟩⟩

end Operations

end AssetFetch
