/-
**What a settings file says, wherever it is.**

* `SettingsStore.said`: the settings that are read where a path names something or nothing, and
  `attempt_readFile`: **reading a settings file answers that, and changes nothing**;
* `FileTree.fileAt`: the file that a path names, with its permission bits;
* `FileTree.SaysSame`: two trees in which a path names the same, or no file in either; so the same
  is read in both, and no byte of the file differs;
* `saysSame_of_grownBut`: what is done to other files of a directory keeps that;
* `FileTree.Steady`: no file comes to light under a path where directories are made;
  `steady_of_parent`, `steady_of_downward`: **so it is in a directory that is there, and under every
  path without steps upwards**.
-/

import AssetFetch.Proofs.Confined
import AssetFetch.Proofs.Settings.Store

namespace AssetFetch

namespace SettingsStore

open Files World

/-! ### What is read -/

/-- The settings that are read where this is what a path names. -/
def said (depths : Json.Depths) (privileged : Bool) (path : Path) :
    Except FileFault Entry → Except Failure Settings
  | .ok .directory => .ok .defaults
  | .ok (.file content mode) =>
    if privileged || FileTree.isReadable mode then ofBytes depths content else .ok .defaults
  | .error fault =>
    if saysNothingThere (.ofFile [path] fault) then .ok .defaults
    else .error (.ofFile [path] fault)

theorem run_read {path : Path} {world : World} {entry : Entry}
    (there : world.tree.status path = .ok entry) :
    world.run (read path).outcome
      = (match entry with
          | .directory => .error (.ofFile [path] .isDirectory)
          | .file content mode =>
            if world.tree.mayRead mode then .ok content else .error (.ofFile [path] .denied),
        world) := by
  show world.onFile (.read path) = _
  simp only [onFile, FileTree.read, there]
  cases entry with
  | directory => rfl
  | file content mode =>
    by_cases readable : world.tree.mayRead mode = true
    · simp only [if_pos readable]
      rfl
    · simp only [if_neg readable]
      rfl

/-- **Reading a settings file tells what the path names, and changes nothing.** -/
theorem attempt_readFile (depths : Json.Depths) (path : Path) (world : World) :
    world.attempt (readFile depths path)
      = (said depths world.tree.privileged path (world.tree.status path), world) := by
  unfold readFile
  cases there : world.tree.status path with
  | error fault =>
    have asked := attempt_exists?_of_error there
    by_cases nothing : saysNothingThere (.ofFile [path] fault) = true
    · rw [if_pos nothing] at asked
      rw [attempt_bind_of_ok asked, said, if_pos nothing]
      rfl
    · rw [if_neg nothing] at asked
      rw [attempt_bind_of_error asked, said, if_neg nothing]
  | ok entry =>
    have read := attempt_ofProgram (read path).outcome world
    rw [run_read there] at read
    rw [attempt_bind_of_ok (attempt_exists?_of_there there), if_pos rfl, attempt_bind_of_ok read]
    cases entry with
    | directory => rfl
    | file content mode =>
      have allowed : (world.tree.privileged || FileTree.isReadable mode)
          = world.tree.mayRead mode := rfl
      by_cases readable : world.tree.mayRead mode = true
      · simp only [said, allowed, if_pos readable]
        rfl
      · simp only [said, allowed, if_neg readable]
        rfl

end SettingsStore

namespace FileTree

variable {tree other before after middle : FileTree} {path : Path} {location : Location}
  {changed : Location → Prop}

/-! ### Paths that name the same -/

/-- The bytes and the permission bits of the file that a path names, if it names one. -/
def fileAt (tree : FileTree) (path : Path) : Option (Bytes × Nat) :=
  match tree.status path with
  | .ok (.file content mode) => some (content, mode)
  | _ => none

/-- What a path names where it names no file: nothing, or a directory. -/
def NoFile (status : Except FileFault Entry) : Prop :=
  status = .ok .directory ∨ status = .error .notFound

theorem NoFile.said {depths : Json.Depths} {privileged : Bool} {status : Except FileFault Entry}
    (none : NoFile status) : SettingsStore.said depths privileged path status = .ok .defaults := by
  rcases none with rfl | rfl
  · rfl
  · rfl

/-- A path names the same in two trees, or no file in either. -/
def SaysSame (path : Path) (before after : FileTree) : Prop :=
  after.status path = before.status path
    ∨ NoFile (before.status path) ∧ NoFile (after.status path)

namespace SaysSame

theorem refl (path : Path) (tree : FileTree) : SaysSame path tree tree := .inl rfl

theorem symm (same : SaysSame path before after) : SaysSame path after before :=
  same.imp Eq.symm And.symm

theorem trans (left : SaysSame path before middle) (right : SaysSame path middle after) :
    SaysSame path before after := by
  rcases left with same | ⟨first, second⟩
  · rw [SaysSame, ← same]
    exact right
  · rcases right with same | ⟨_, last⟩
    · exact .inr ⟨first, same ▸ second⟩
    · exact .inr ⟨first, last⟩

/-- A file that a path names stays what it names. -/
theorem status_of_file {content : Bytes} {mode : Nat} (same : SaysSame path before after)
    (there : before.status path = .ok (.file content mode)) :
    after.status path = .ok (.file content mode) := by
  rcases same with same | ⟨none, _⟩
  · exact same.trans there
  · rw [NoFile, there] at none
    rcases none with none | none <;> cases none

/-- **The same is read.** -/
theorem said {depths : Json.Depths} {privileged : Bool} (same : SaysSame path before after) :
    SettingsStore.said depths privileged path (after.status path)
      = SettingsStore.said depths privileged path (before.status path) := by
  rcases same with same | ⟨first, last⟩
  · rw [same]
  · rw [first.said, last.said]

/-- **No byte differs.** -/
theorem fileAt (same : SaysSame path before after) : after.fileAt path = before.fileAt path := by
  rcases same with same | ⟨first, last⟩
  · rw [FileTree.fileAt, same, FileTree.fileAt]
  · rcases first with first | first <;> rcases last with last | last <;>
      simp only [FileTree.fileAt, first, last]

end SaysSame

/-- What is in a directory has a place, unless it cannot be handed to the system. -/
theorem placeOf_of_parent (there : tree.status path.parent = .ok .directory) :
    (∃ fault, systemNames path = .error fault) ∨ ∃ place, tree.placeOf path = .ok place := by
  cases encoded : systemNames path with
  | error fault => exact .inl ⟨fault, rfl⟩
  | ok names =>
    obtain ⟨above, place, handed, walked⟩ := status_eq_directory_iff.mp there
    have front : above = names.dropLast := by
      rw [systemNames_eq_ok handed, systemNames_eq_ok encoded, ← List.map_dropLast]
      rfl
    have start : startOf path.parent = startOf path := rfl
    rw [front, start] at walked
    exact .inr ⟨_, placeOf_of_arrives encoded walked⟩

theorem status_of_unencodable {fault : FileFault} (refused : systemNames path = .error fault) :
    tree.status path = .error fault := by
  simp only [status, locate, placeOf, refused]

/-- What a place with an entry says is the entry, unless its name is too long. -/
theorem status_of_placed (placed : tree.placeOf path = .ok (.named location)) :
    tree.status path
      = if endsTooLong location then .error .nameTooLong
        else match tree.get? location with
          | some entry => .ok entry
          | none => .error .notFound := by
  unfold status locate
  by_cases long : endsTooLong location = true
  · simp only [placed, if_pos long]
  · cases entry : tree.get? location <;> simp only [placed, if_neg long, entry]

theorem status_of_fixed (placed : tree.placeOf path = .ok (.fixed location)) :
    tree.status path = .ok .directory := by
  simp only [status, locate, placed]

/-- The same place says the same, as long as at most a directory is new there. -/
theorem saysSame_of_placed {place : Place} (first : before.placeOf path = .ok place)
    (last : after.placeOf path = .ok place)
    (same : ∀ location, place = .named location → after.get? location = before.get? location
      ∨ (before.get? location = none ∧ after.get? location = some .directory)) :
    SaysSame path before after := by
  cases place with
  | fixed location => exact .inl ((status_of_fixed last).trans (status_of_fixed first).symm)
  | named location =>
    unfold SaysSame
    rw [status_of_placed first, status_of_placed last]
    by_cases long : endsTooLong location = true
    · exact .inl (by rw [if_pos long, if_pos long])
    · rw [if_neg long, if_neg long]
      rcases same location rfl with same | ⟨absent, made⟩
      · exact .inl (by rw [same])
      · rw [absent, made]
        exact .inr ⟨.inr rfl, .inl rfl⟩

/-- **In a directory that is there, what is done at other places keeps what a path says.** -/
theorem saysSame_of_grownBut (there : before.status path.parent = .ok .directory)
    (grown : GrownBut changed before after)
    (free : ∀ location, before.placeOf path = .ok (.named location) → ¬ changed location) :
    SaysSame path before after := by
  rcases placeOf_of_parent there with ⟨fault, refused⟩ | ⟨place, placed⟩
  · exact .inl ((status_of_unencodable refused).trans (status_of_unencodable refused).symm)
  · refine saysSame_of_placed placed (placeOf_of_directories grown.directories placed) ?_
    rintro location rfl
    exact grown.elsewhere location (free location placed)

/-- What is added to a file elsewhere keeps what a path says, also where its directory is missing.
-/
theorem saysSame_appendAt (bytes : Bytes)
    (free : ∀ place, tree.placeOf path = .ok (.named place) → place ≠ location) :
    SaysSame path tree (tree.appendAt location bytes) := by
  have alike : tree.SameShape (tree.appendAt location bytes) := sameShape_appendAt bytes
  have shape := placeOf_of_sameShape alike path
  cases placed : tree.placeOf path with
  | error fault =>
    rw [placed] at shape
    exact .inl (by simp only [status, locate, placed, shape])
  | ok place =>
    refine saysSame_of_placed placed (shape.trans placed) ?_
    rintro here rfl
    exact .inl (get?_appendAt_of_ne (free here placed) bytes)

/-! ### Directories that are made on the way -/

/-- No file comes to light where directories are made. -/
def Steady (path : Path) (tree : FileTree) : Prop :=
  ∀ after, tree.Grown after → SaysSame path tree after

theorem Steady.of_grown (steady : Steady path tree) (grown : tree.Grown other) :
    Steady path other := fun after more =>
  (steady other grown).symm.trans (steady after (grown.trans more))

/-- **In a directory that is there no file comes to light.** -/
theorem steady_of_parent (there : tree.status path.parent = .ok .directory) :
    Steady path tree := by
  intro after grown
  have nowhere : GrownBut (fun _ => False) tree after := .of_grown grown
  exact saysSame_of_grownBut there nowhere fun _ _ => not_false

/-! ### Paths that lead downwards -/

/-- Where nothing is, nothing is below. -/
def Rooted (tree : FileTree) : Prop :=
  ∀ place name, tree.get? place = none → tree.get? (place ++ [name]) = none

theorem rooted_empty : Rooted .empty := by
  intro place name absent
  have free : place.isGiven = false := not_given_of_ne_directory (by rw [absent]; nofun)
  have below : Location.isGiven (place ++ [name]) = false := by
    simp only [Location.isGiven, Location.root, Bool.or_eq_false_iff, beq_eq_false_iff_ne,
      List.all_append, Bool.and_eq_false_iff] at free ⊢
    refine ⟨fun same => ?_, .inl free.2⟩
    obtain ⟨rfl, _⟩ := List.append_eq_singleton_iff.mp same |>.resolve_right fun other =>
      absurd other.2 (List.cons_ne_nil _ _)
    exact absurd free.2 (by decide)
  rw [get?_of_not_given below]
  rfl

/-- A name that leads downwards, and that the system takes. -/
def IsDownward (name : Text.FileName) : Prop :=
  name ≠ ".." ∧ isTooLong name = false

instance (name : Text.FileName) : Decidable (IsDownward name) :=
  inferInstanceAs (Decidable (name ≠ ".." ∧ isTooLong name = false))

/-- A walk that was no walk before: it finds a directory that has been made, or none. -/
def Strays (before after : FileTree) (here : Location) (names : List Text.FileName) : Prop :=
  after.walk here names = .error .notFound
    ∨ ∃ place, after.walk here names = .ok place ∧ before.get? place = none

/-- From a directory that has been made nothing is found but directories that have been made. -/
theorem strays_of_missing (rooted : before.Rooted) {names : List Text.FileName}
    (down : ∀ name ∈ names, IsDownward name) {here : Location} (missing : before.get? here = none)
    (grown : before.Grown after) : Strays before after here names := by
  induction names generalizing here with
  | nil => exact .inr ⟨here, rfl, missing⟩
  | cons name rest ih =>
    obtain ⟨⟨level, short⟩, others⟩ := List.forall_mem_cons.mp down
    have next := rooted here name missing
    have apart : (name == "..") = false := beq_eq_false_iff_ne.mpr level
    unfold Strays
    simp only [walk, apart, short, Bool.false_eq_true, if_false]
    rcases grown (here ++ [name]) with same | ⟨_, made⟩
    · rw [same, next]
      exact .inl rfl
    · rw [made]
      exact ih others next

/-- **A downward walk goes the same way where directories have been made**, or it strays where it
ended before. -/
theorem walk_of_grown (rooted : before.Rooted) {names : List Text.FileName}
    (down : ∀ name ∈ names, IsDownward name) (here : Location) (grown : before.Grown after) :
    after.walk here names = before.walk here names
      ∨ before.walk here names = .error .notFound ∧ Strays before after here names := by
  induction names generalizing here with
  | nil => exact .inl rfl
  | cons name rest ih =>
    obtain ⟨⟨level, short⟩, others⟩ := List.forall_mem_cons.mp down
    have apart : (name == "..") = false := beq_eq_false_iff_ne.mpr level
    unfold Strays
    simp only [walk, apart, short, Bool.false_eq_true, if_false]
    rcases grown (here ++ [name]) with same | ⟨missing, made⟩
    · rw [same]
      cases before.get? (here ++ [name]) with
      | none => exact .inl rfl
      | some entry =>
        cases entry with
        | directory => exact ih others _
        | file content mode => exact .inl rfl
    · rw [missing, made]
      exact .inr ⟨rfl, strays_of_missing rooted others missing grown⟩

/-- What a downward path finds where directories have been made: what it found before, or a place
where nothing was. -/
theorem placeOf_of_grown (rooted : before.Rooted)
    (down : ∀ name ∈ path.names, IsDownward name.fileName) (grown : before.Grown after) :
    after.placeOf path = before.placeOf path
      ∨ before.placeOf path = .error .notFound
        ∧ (after.placeOf path = .error .notFound
          ∨ ∃ place, after.placeOf path = .ok (.named place) ∧ endsTooLong place = false
            ∧ before.get? place = none) := by
  cases encoded : systemNames path with
  | error fault => exact .inl (by simp only [placeOf, encoded])
  | ok names =>
    have every : ∀ name ∈ names, IsDownward name := by
      rw [systemNames_eq_ok encoded]
      exact List.forall_mem_map.mpr down
    cases last : names.getLast? with
    | none => exact .inl (by simp only [placeOf, encoded, last])
    | some name =>
      obtain ⟨level, short⟩ := every name (List.mem_of_getLast? last)
      have apart : (name == "..") = false := beq_eq_false_iff_ne.mpr level
      have front : ∀ other ∈ names.dropLast, IsDownward other := fun other member =>
        every other (List.dropLast_subset names member)
      have leads : ∀ tree : FileTree, tree.placeOf path
          = (tree.walk (startOf path) names.dropLast).map fun directory =>
            .named (directory ++ [name]) := by
        intro tree
        simp only [placeOf, encoded, last, apart, Bool.false_eq_true, if_false]
      rw [leads, leads]
      rcases walk_of_grown rooted front (startOf path) grown with same | ⟨ended, strays⟩
      · exact .inl (by rw [same])
      · rw [ended]
        rcases strays with lost | ⟨place, found, missing⟩
        · rw [lost]
          exact .inl rfl
        · rw [found]
          refine .inr ⟨rfl, .inr ⟨place ++ [name], rfl, ?_, rooted place name missing⟩⟩
          rwa [endsTooLong_append]

/-- **No file comes to light under a path that leads downwards**, whether or not its directory is
there. -/
theorem steady_of_downward (rooted : tree.Rooted)
    (down : ∀ name ∈ path.names, IsDownward name.fileName) : Steady path tree := by
  intro after grown
  rcases placeOf_of_grown rooted down grown with same | ⟨ended, strays⟩
  · cases placed : tree.placeOf path with
    | error fault =>
      rw [placed] at same
      exact .inl (by simp only [status, locate, placed, same])
    | ok place =>
      exact saysSame_of_placed placed (same.trans placed) fun location _ => grown location
  · have first : tree.status path = .error .notFound := by simp only [status, locate, ended]
    refine .inr ⟨.inr first, ?_⟩
    rcases strays with lost | ⟨place, found, short, missing⟩
    · exact .inr (by simp only [status, locate, lost])
    · rw [status_of_placed found, short, if_neg Bool.false_ne_true]
      rcases grown place with same | ⟨_, made⟩
      · rw [same, missing]
        exact .inr rfl
      · rw [made]
        exact .inl rfl

end FileTree

end AssetFetch
