/-
**What is done at some places leaves the others alone.**

* `FileTree.GrownBut`: two trees that differ at some places at most, but for directories that are
  new, and in which no directory is lost;
* `Effect.WorksOn`: effects on the files that some paths name, and on nothing else but directories,
  the log, the network and what a file tree knows nothing of. A rename is none of them;
* `World.Confined`: these paths, and the log file, name only places among some;
* `Confined.confines_answer`, `Confined.confines_run`: **whatever works on such paths keeps all
  other places**, one effect after the other;
* `mem_logFile_run`: what opens no log leaves the log file, or closes it;
* `sameUser_run`: no program changes who works with the files.
-/

import AssetFetch.Proofs.Directories
import AssetFetch.Proofs.Draft

namespace AssetFetch

/-- Whether an entry is a directory. -/
def Entry.isDirectory : Entry → Bool
  | .directory => true
  | .file _ _ => false

namespace FileTree

variable {tree other before after : FileTree} {file path : Path} {location : Location}
  {changed : Location → Prop}

/-! ### Trees that differ at some places -/

/-- No directory is lost, and elsewhere than at some places only directories are new. -/
structure GrownBut (changed : Location → Prop) (before after : FileTree) : Prop where
  directories : ∀ place, before.get? place = some .directory → after.get? place = some .directory
  elsewhere : ∀ place, ¬ changed place → after.get? place = before.get? place
    ∨ (before.get? place = none ∧ after.get? place = some .directory)

namespace GrownBut

theorem refl (changed : Location → Prop) (tree : FileTree) : GrownBut changed tree tree :=
  ⟨fun _ there => there, fun _ _ => .inl rfl⟩

theorem of_grown (grown : before.Grown after) : GrownBut changed before after :=
  ⟨grown.directories, fun place _ => grown place⟩

theorem trans {first second third : FileTree} (left : GrownBut changed first second)
    (right : GrownBut changed second third) : GrownBut changed first third where
  directories place there := right.directories place (left.directories place there)
  elsewhere place free := by
    rcases right.elsewhere place free with same | ⟨absent, made⟩
    · rw [same]
      exact left.elsewhere place free
    · rcases left.elsewhere place free with equal | ⟨_, there⟩
      · exact .inr ⟨equal ▸ absent, made⟩
      · rw [there] at absent
        cases absent

theorem mono {wider : Location → Prop} (widen : ∀ place, changed place → wider place)
    (grown : GrownBut changed before after) : GrownBut wider before after :=
  ⟨grown.directories, fun place free => grown.elsewhere place fun here => free (widen place here)⟩

/-- What a single path names is all that differs. -/
theorem of_sameBut (same : before.SameBut file after)
    (inside : ∀ place, before.locate file = .ok (.named place) → changed place) :
    GrownBut changed before after := by
  rcases same with rfl | ⟨location, located, free, equal⟩
  · exact refl changed after
  · constructor
    · intro place there
      have apart : place ≠ location := fun same => free (same ▸ there)
      rw [equal place apart, there]
    · intro place outside
      have apart : place ≠ location := fun same => outside (same ▸ inside location located)
      exact .inl (equal place apart)

end GrownBut

/-- A path that names something names the same in every tree that keeps the directories. -/
theorem placeOf_of_directories {place : Place}
    (kept : ∀ place, tree.get? place = some .directory → other.get? place = some .directory)
    (placed : tree.placeOf path = .ok place) : other.placeOf path = .ok place := by
  unfold placeOf at placed ⊢
  split at placed
  · cases placed
  · rename_i names encoded
    split at placed
    · exact placed
    · split at placed
      · cases walked : tree.walk (startOf path) names with
        | error fault => simp [walked, Except.map] at placed
        | ok directory =>
          rw [walked] at placed
          rw [if_pos ‹_›, walk_of_directories kept walked]
          exact placed
      · cases walked : tree.walk (startOf path) names.dropLast with
        | error fault => simp [walked, Except.map] at placed
        | ok directory =>
          rw [walked] at placed
          rw [if_neg ‹_›, walk_of_directories kept walked]
          exact placed

/-! ### Trees of one shape -/

section Shapes

/-- Directories are where directories are, and files where files are. -/
def SameShape (tree other : FileTree) : Prop :=
  ∀ place, (other.get? place).map Entry.isDirectory = (tree.get? place).map Entry.isDirectory

theorem SameShape.directory_iff (same : tree.SameShape other) (place : Location) :
    other.get? place = some .directory ↔ tree.get? place = some .directory := by
  have one : ∀ found : Option Entry,
      found = some .directory ↔ found.map Entry.isDirectory = some true := by
    rintro (_ | _ | _) <;> simp [Entry.isDirectory]
  rw [one, one, same place]

/-- **What files hold does not matter to a walk.** -/
theorem walk_of_sameShape (same : tree.SameShape other) (here : Location)
    (names : List Text.FileName) :
    other.walk here names = tree.walk here names := by
  induction names generalizing here with
  | nil => rfl
  | cons name rest ih =>
    have shape := same (here ++ [name])
    simp only [walk, ih]
    cases found : tree.get? (here ++ [name]) with
    | none =>
      rw [found, Option.map_none, Option.map_eq_none_iff] at shape
      rw [shape]
    | some entry =>
      rw [found, Option.map_some] at shape
      obtain ⟨twin, there, kind⟩ := Option.map_eq_some_iff.mp shape
      rw [there]
      cases entry <;> cases twin <;> first | rfl | cases kind

theorem placeOf_of_sameShape (same : tree.SameShape other) (path : Path) :
    other.placeOf path = tree.placeOf path := by
  simp only [placeOf, walk_of_sameShape same]

theorem locate_of_sameShape (same : tree.SameShape other) (path : Path) :
    other.locate path = tree.locate path := by
  simp only [locate, placeOf_of_sameShape same]

end Shapes

/-! ### One operation on a file -/

section Operations

theorem sameBut_put (located : tree.locate path = .ok (.named location))
    (free : tree.get? location ≠ some .directory) (entry : Entry) :
    tree.SameBut path (tree.put location entry) :=
  .inr ⟨location, located, free, fun _ apart => get?_put_of_ne apart⟩

theorem sameBut_erase (located : tree.locate path = .ok (.named location))
    (free : tree.get? location ≠ some .directory) :
    tree.SameBut path (tree.erase location) :=
  .inr ⟨location, located, free, fun _ apart => get?_erase_of_ne apart⟩

theorem sameBut_createNew {mode : Int} (created : tree.createNew path mode = .ok other) :
    tree.SameBut path other := by
  obtain ⟨location, vacant, rfl⟩ := (createNew_eq_ok_iff mode).mp created
  exact sameBut_put vacant.1 vacant.ne_directory _

/-- Opening a file for writing puts a file at the place that the path names. -/
theorem exists_of_openForWriting {keep : Bool}
    (opened : tree.openForWriting path keep = .ok (location, other)) :
    tree.locate path = .ok (.named location) ∧ tree.get? location ≠ some .directory
      ∧ ∃ content mode, other = tree.put location (.file content mode) := by
  unfold openForWriting at opened
  split at opened
  · cases opened
  · cases opened
  · rename_i place located
    split at opened
    · cases opened
    · rename_i found
      have free : tree.get? place ≠ some .directory := by simp [found]
      split at opened
      · cases opened
      · split at opened
        · cases opened
          exact ⟨located, free, _, _, rfl⟩
        · cases opened
          exact ⟨located, free, _, _, rfl⟩
    · rename_i absent
      cases opened
      exact ⟨located, by simp [absent], _, _, rfl⟩

theorem get?_appendAt_of_ne {place : Location} (apart : place ≠ location) (bytes : Bytes) :
    (tree.appendAt location bytes).get? place = tree.get? place := by
  unfold appendAt
  split
  · split
    · rfl
    · exact get?_put_of_ne apart
  · rfl

/-- Bytes are added to a file only, and that stays one. -/
theorem sameShape_appendAt (bytes : Bytes) :
    tree.SameShape (tree.appendAt location bytes) := by
  intro place
  unfold appendAt
  split
  · rename_i content mode found
    split
    · rfl
    · by_cases here : place = location
      · have free : tree.get? place ≠ some .directory := by simp [here, found]
        rw [here, get?_put_self (not_given_of_ne_directory (here ▸ free)), found]
        rfl
      · rw [get?_put_of_ne here]
  · rfl

theorem grownBut_appendAt (inside : changed location) (bytes : Bytes) :
    GrownBut changed tree (tree.appendAt location bytes) where
  directories _ there := ((sameShape_appendAt bytes).directory_iff _).mpr there
  elsewhere place outside := by
    have apart : place ≠ location := fun same => outside (same ▸ inside)
    exact .inl (get?_appendAt_of_ne apart bytes)

theorem sameBut_append {bytes : Bytes} (appended : tree.append path bytes = .ok other) :
    tree.SameBut path other := by
  unfold append at appended
  split at appended
  · cases appended
  · cases appended
  · rename_i location located
    cases appended
    unfold appendAt
    split
    · rename_i found
      split
      · exact .inl rfl
      · exact sameBut_put located (by simp [found]) _
    · exact .inl rfl

theorem sameBut_setMode {mode : Int} (set : tree.setMode path mode = .ok other) :
    tree.SameBut path other := by
  unfold setMode at set
  split at set
  · cases set
  · cases set
    exact .inl rfl
  · rename_i location located
    split at set
    · rename_i found
      cases set
      exact sameBut_put located (by simp [found]) _
    · cases set
      exact .inl rfl
    · cases set

theorem sameBut_remove (removed : tree.remove path = .ok other) : tree.SameBut path other := by
  obtain ⟨location, content, mode, located, found, rfl⟩ := remove_eq_ok_iff.mp removed
  exact sameBut_erase located (by simp [found])

end Operations

end FileTree

/-! ### Effects on the files of some paths -/

/-- What is done to the files of some paths, and whatever does nothing to files but make
directories and write the log. -/
def Effect.WorksOn (paths : Path → Prop) : Effect → Prop
  | .file (.create path _) => paths path
  | .file (.overwrite path) => paths path
  | .file (.append path _) => paths path
  | .file (.setMode path _) => paths path
  | .file (.remove path) => paths path
  | .file (.rename _ _) => False
  | .openLog path _ => paths path
  | _ => True

/-- Effects that open no log. -/
def Effect.OpensNoLog (effect : Effect) : Prop :=
  ∀ path level, effect ≠ .openLog path level

theorem Effect.IsPlain.opensNoLog {effect : Effect} (plain : effect.IsPlain) :
    effect.OpensNoLog := by
  rintro path level rfl
  exact plain.elim

/-- What does nothing to files works on any. -/
theorem Effect.IsQuiet.worksOn {effect : Effect} (quiet : effect.IsQuiet) (paths : Path → Prop) :
    effect.WorksOn paths := by
  cases effect with
  | file action => exact quiet.elim
  | openLog path level => exact quiet.elim
  | _ => trivial

namespace World

open FileTree

variable {world later : World} {paths : Path → Prop} {changed : Location → Prop} {path : Path}

theorem run_logLine (severity : Severity) (logger message : String) (world : World) :
    (world.run (logLine severity logger message)).2
      = world.log ⟨.number severity.number, logger, message⟩ :=
  rfl

/-- **A line for the log is added to the log file, or leaves the files alone.** -/
theorem log_leaves (world : World) (record : LogLine) :
    (world.log record).logFile = world.logFile
      ∧ ((world.log record).tree = world.tree
        ∨ ∃ location bytes, world.logFile = some location
          ∧ (world.log record).tree = world.tree.appendAt location bytes) := by
  obtain ⟨_, tree, same, leaves⟩ := world.exists_of_log record
  rw [same]
  exact ⟨rfl, leaves⟩

/-- A log file of another name stays open. -/
theorem withoutLogAt_of_named
    (logged : ∀ place ∈ world.logFile, place.getLast? ≠ some path.fileName) :
    world.withoutLogAt path = world := by
  unfold withoutLogAt
  split
  · rename_i location other opened located
    have apart : (location == other) = false := by
      refine beq_eq_false_iff_ne.mpr fun same => logged location opened ?_
      rw [same]
      exact getLast?_of_placed (locate_eq_named_iff.mp located).1
    rw [apart]
    rfl
  · rfl

/-- What the paths name, whatever directories are made, and the log file are among some places. -/
structure Confined (paths : Path → Prop) (changed : Location → Prop) (world : World) : Prop where
  named : ∀ path, paths path → ∀ after : FileTree,
    (∀ place, world.tree.get? place = some .directory → after.get? place = some .directory) →
    ∀ location, after.placeOf path = .ok (.named location) → changed location
  logged : ∀ location ∈ world.logFile, changed location

/-- Only these places differ in the end, and they are still all that is named. -/
structure Confines (paths : Path → Prop) (changed : Location → Prop) (before after : World) :
    Prop where
  confined : Confined paths changed after
  grown : GrownBut changed before.tree after.tree

theorem Confines.trans {first second third : World} (left : Confines paths changed first second)
    (right : Confines paths changed second third) : Confines paths changed first third :=
  ⟨right.confined, left.grown.trans right.grown⟩

namespace Confined

variable (confined : Confined paths changed world)

include confined

theorem inside (works : paths path) {location : Location}
    (located : world.tree.locate path = .ok (.named location)) : changed location :=
  confined.named path works _ (fun _ there => there) location
    (locate_eq_named_iff.mp located).1

/-- As long as no directory is lost, the paths name what they named. -/
theorem of_directories
    (kept : ∀ place, world.tree.get? place = some .directory →
      later.tree.get? place = some .directory)
    (logged : ∀ location ∈ later.logFile, changed location) : Confined paths changed later where
  named path works after more := confined.named path works after fun place there =>
    more place (kept place there)
  logged := logged

/-- Only the files and the log have to be looked at. -/
theorem confines (grown : GrownBut changed world.tree later.tree)
    (logged : ∀ location ∈ later.logFile, changed location) :
    Confines paths changed world later :=
  ⟨confined.of_directories grown.directories logged, grown⟩

theorem confines_refl : Confines paths changed world world :=
  confined.confines (.refl _ _) confined.logged

/-- What the files have nothing to do with leaves them. -/
theorem confines_of_same (tree : later.tree = world.tree)
    (logFile : later.logFile = world.logFile) : Confines paths changed world later := by
  refine confined.confines ?_ (logFile ▸ confined.logged)
  rw [tree]
  exact .refl _ _

theorem confines_of_sameBut (works : paths path) (same : world.tree.SameBut path later.tree)
    (logged : ∀ location ∈ later.logFile, changed location) :
    Confines paths changed world later :=
  confined.confines (.of_sameBut same fun _ => confined.inside works) logged

theorem confines_changing {reported : List Path} (works : paths path)
    {result : Except FileFault FileTree}
    (same : ∀ tree, result = .ok tree → world.tree.SameBut path tree) :
    Confines paths changed world (world.changing reported result).2 := by
  cases result with
  | error fault => exact confined.confines_refl
  | ok tree => exact confined.confines_of_sameBut works (same tree rfl) confined.logged

theorem confines_withMode {mode : Given Int} {result : Int → Except FileFault FileTree}
    (works : paths path) (same : ∀ wished tree, result wished = .ok tree →
      world.tree.SameBut path tree) :
    Confines paths changed world (world.withMode path mode result).2 := by
  unfold withMode
  split
  · exact confined.confines_refl
  · exact confined.confines_refl
  · exact confined.confines_changing works (same _)
  · exact confined.confines_refl
  · split
    · exact confined.confines_refl
    · exact confined.confines_changing works (same _)

theorem logged_withoutLogAt (path : Path) :
    ∀ location ∈ (world.withoutLogAt path).logFile, changed location := by
  rcases world.withoutLogAt_cases path with same | closed
  · rw [same]
    exact confined.logged
  · rw [closed]
    exact nofun

theorem confines_onFile {action : FileAction} (works : (Effect.file action).WorksOn paths) :
    Confines paths changed world (world.onFile action).2 := by
  cases action with
  | create path mode => exact confined.confines_withMode works fun _ _ => sameBut_createNew
  | overwrite path =>
    refine confined.confines_changing works fun tree opened => ?_
    cases done : world.tree.openForWriting path false with
    | error fault =>
      rw [done] at opened
      cases opened
    | ok reached =>
      rw [done] at opened
      cases opened
      obtain ⟨located, free, content, mode, same⟩ := exists_of_openForWriting done
      exact same ▸ sameBut_put located free _
  | append path bytes => exact confined.confines_changing works fun _ => sameBut_append
  | flush path | close path => exact confined.confines_refl
  | sync path =>
    simp only [onFile]
    split <;> exact confined.confines_refl
  | setMode path mode =>
    simp only [onFile]
    split
    · exact confined.confines_refl
    · exact confined.confines_withMode works fun _ _ => sameBut_setMode
  | rename source target => exact works.elim
  | remove path =>
    simp only [onFile]
    split
    · exact confined.confines_refl
    · split
      · rename_i removed
        exact confined.confines_of_sameBut works (sameBut_remove removed)
          (confined.logged_withoutLogAt path)
      · exact confined.confines_refl
  | makeDirectory path =>
    simp only [onFile]
    cases made : world.tree.makeDirectory path with
    | error fault => exact confined.confines_refl
    | ok tree =>
      obtain ⟨place, vacant, rfl⟩ := makeDirectory_eq_ok_iff.mp made
      exact confined.confines (.of_grown (grown_put vacant.2)) confined.logged
  | isDirectory path =>
    simp only [onFile]
    split <;> exact confined.confines_refl
  | read path => exact confined.confines_refl

theorem confines_log (record : LogLine) : Confines paths changed world (world.log record) := by
  obtain ⟨logFile, same | ⟨location, bytes, opened, same⟩⟩ := world.log_leaves record
  · exact confined.confines_of_same same logFile
  · refine confined.confines ?_ (logFile ▸ confined.logged)
    rw [same]
    exact grownBut_appendAt (confined.logged location opened) bytes

theorem confines_openLog (works : paths path) (level : Int) :
    Confines paths changed world (world.openLog path level).2 := by
  unfold openLog
  split
  · exact confined.confines_refl
  · rename_i location tree opened
    obtain ⟨located, free, content, mode, rfl⟩ := exists_of_openForWriting opened
    refine confined.confines_of_sameBut works (sameBut_put located free _) ?_
    rintro place ⟨⟩
    exact confined.inside works located

/-- **One effect.** -/
theorem confines_answer {effect : Effect} (works : effect.WorksOn paths) :
    Confines paths changed world (world.answer effect).2 := by
  cases effect with
  | file action => exact confined.confines_onFile works
  | keyring action =>
    obtain ⟨_, same⟩ := world.exists_of_onKeyring action
    exact confined.confines_of_same (congrArg World.tree same :) (congrArg World.logFile same :)
  | send request =>
    obtain ⟨_, _, same⟩ := world.exists_of_onSend request
    exact confined.confines_of_same (congrArg World.tree same :) (congrArg World.logFile same :)
  | log record => exact confined.confines_log record
  | setUpLog level console => exact confined.confines (.refl _ _) fun _ member =>
      (Option.not_mem_none _ member).elim
  | openLog path level => exact confined.confines_openLog works level
  | print text =>
    obtain ⟨_, same⟩ := world.exists_of_print text
    exact confined.confines_of_same (congrArg World.tree same :) (congrArg World.logFile same :)
  | report percent delta =>
    obtain ⟨_, _, same⟩ := world.exists_of_report percent delta
    exact confined.confines_of_same (congrArg World.tree same :) (congrArg World.logFile same :)
  | progress read total =>
    have same := world.progress_snd read total
    exact confined.confines_of_same (congrArg World.tree same :) (congrArg World.logFile same :)
  | _ => exact confined.confines_of_same rfl rfl

/-- **Whatever works on such paths keeps all other places.** -/
theorem confines_run {α : Type} {program : Program α}
    (works : program.AllAsked (Effect.WorksOn paths)) :
    Confines paths changed world (world.run program).2 :=
  related_run
    (fun before after => Confined paths changed before → Confines paths changed before after)
    (fun _ here => here.confines_refl)
    (fun left right here => (left here).trans (right (left here).confined))
    (fun _ _ works here => here.confines_answer works) works world confined

end Confined

/-! ### The log file -/

section LogFile

variable (world)

/-- An operation on a file leaves the log file, or closes it. -/
theorem mem_logFile_onFile (action : FileAction) :
    ∀ place ∈ (world.onFile action).2.logFile, place ∈ world.logFile := by
  obtain ⟨_, logFile, same, rfl | rfl⟩ := world.exists_of_onFile action
  · rw [same]
    exact fun _ inside => inside
  · rw [same]
    exact nofun

end LogFile

/-- **What opens no log** leaves the log file, or closes it. -/
theorem mem_logFile_answer {effect : Effect} (closed : effect.OpensNoLog) :
    ∀ place ∈ (world.answer effect).2.logFile, place ∈ world.logFile := by
  by_cases files : ∃ action, effect = .file action
  · obtain ⟨action, rfl⟩ := files
    exact mem_logFile_onFile world action
  · -- nothing else names a file, so that the log file is all that such an effect may change
    have confined : Confined (fun _ => False) (· ∈ world.logFile) world :=
      ⟨fun _ never => never.elim, fun _ inside => inside⟩
    have works : effect.WorksOn fun _ => False := by
      cases effect with
      | file action => exact absurd ⟨action, rfl⟩ files
      | openLog path level => exact absurd rfl (closed path level)
      | _ => trivial
    exact (confined.confines_answer works).confined.logged

theorem mem_logFile_run {α : Type} {program : Program α}
    (closed : program.AllAsked Effect.OpensNoLog) (world : World) :
    ∀ place ∈ (world.run program).2.logFile, place ∈ world.logFile :=
  related_run (fun before after => ∀ place ∈ after.logFile, place ∈ before.logFile)
    (fun _ _ inside => inside) (fun left right place inside => left place (right place inside))
    (fun _ _ closed => mem_logFile_answer closed) closed world

/-! ### The user -/

section User

variable {world : World}

/-- The same user works with the files. -/
def SameUser (before after : World) : Prop :=
  after.tree.privileged = before.tree.privileged

theorem sameUser_changing {paths : List Path} {result : Except FileFault FileTree}
    (same : ∀ tree, result = .ok tree → tree.privileged = world.tree.privileged) :
    world.SameUser (world.changing paths result).2 := by
  cases result with
  | ok tree => exact same tree rfl
  | error fault => exact rfl

theorem sameUser_withMode {path : Path} {mode : Given Int}
    {result : Int → Except FileFault FileTree}
    (same : ∀ mode tree, result mode = .ok tree → tree.privileged = world.tree.privileged) :
    world.SameUser (world.withMode path mode result).2 := by
  unfold withMode
  split
  · rfl
  · rfl
  · exact sameUser_changing (same _)
  · rfl
  · split
    · rfl
    · exact sameUser_changing (same _)

/-- **No operation on files changes who works with them.** -/
theorem sameUser_onFile (action : FileAction) : world.SameUser (world.onFile action).2 := by
  cases action with
  | create path mode => exact sameUser_withMode fun _ _ => FileTree.privileged_of_createNew
  | overwrite path =>
    refine sameUser_changing fun tree opened => ?_
    cases done : world.tree.openForWriting path false with
    | error fault =>
      rw [done] at opened
      cases opened
    | ok found =>
      rw [done] at opened
      cases opened
      exact FileTree.privileged_of_openForWriting done
  | append path bytes => exact sameUser_changing fun _ => FileTree.privileged_of_append
  | flush path | close path | isDirectory path | read path | sync path =>
    simp only [onFile, SameUser]
    try split <;> rfl
  | setMode path mode =>
    simp only [onFile]
    split
    · rfl
    · exact sameUser_withMode fun _ _ => FileTree.privileged_of_setMode
  | rename source target =>
    simp only [onFile]
    split
    · rfl
    · split
      · exact FileTree.privileged_of_rename ‹_›
      · rfl
  | remove path =>
    simp only [onFile]
    split
    · rfl
    · split
      · exact FileTree.privileged_of_remove ‹_›
      · rfl
  | makeDirectory path => exact sameUser_changing fun _ => FileTree.privileged_of_makeDirectory

theorem sameUser_answer (effect : Effect) : world.SameUser (world.answer effect).2 := by
  cases effect with
  | file action => exact sameUser_onFile action
  | keyring action =>
    obtain ⟨_, same⟩ := world.exists_of_onKeyring action
    exact (congrArg (·.tree.privileged) same :)
  | send request =>
    obtain ⟨_, _, same⟩ := world.exists_of_onSend request
    exact (congrArg (·.tree.privileged) same :)
  | log record =>
    obtain ⟨_, _, same, rfl | ⟨location, bytes, _, rfl⟩⟩ := world.exists_of_log record
    · exact (congrArg (·.tree.privileged) same :)
    · exact (congrArg (·.tree.privileged) same :).trans (FileTree.privileged_appendAt bytes)
  | openLog path level =>
    show world.SameUser (world.openLog path level).2
    unfold openLog
    split
    · rfl
    · exact FileTree.privileged_of_openForWriting ‹_›
  | print text =>
    obtain ⟨_, same⟩ := world.exists_of_print text
    exact (congrArg (·.tree.privileged) same :)
  | report percent delta =>
    obtain ⟨_, _, same⟩ := world.exists_of_report percent delta
    exact (congrArg (·.tree.privileged) same :)
  | progress read total => exact (congrArg (·.tree.privileged) (world.progress_snd read total) :)
  | _ => rfl

/-- **Nor does any program.** -/
theorem sameUser_run {α : Type} (program : Program α) (world : World) :
    world.SameUser (world.run program).2 := by
  induction program generalizing world with
  | done value => exact rfl
  | ask effect next ih => exact (ih _ _).trans (sameUser_answer effect)

theorem sameUser_of_attempt {α : Type} {action : Action α} {result : Except Failure α}
    {later : World} (ran : world.attempt action = (result, later)) : world.SameUser later := by
  have kept : world.SameUser (world.attempt action).2 := sameUser_run action.outcome world
  rwa [ran] at kept

end User

end World

end AssetFetch
