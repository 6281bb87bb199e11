/-
**Two worlds that differ in what one file holds.**

Two runs are followed side by side. They are in the same world until they write something different
into one file, and in the same world again when that file is removed.

* `FileTree.DifferIn`, `DifferAt`: trees and worlds that differ in nothing but what one file holds;
* `ComeOutAlike`: two attempts that are the same, or fail alike in such worlds;
* `ComeOutAlike.bind`, `ComeOutAlike.after`, `ComeOutAlike.orElse`: what begins alike goes on alike;
* `DifferAt.log`, `DifferAt.onFile_remove`: a line for the log makes no difference, and once the
  file is removed there is none;
* `World.faults_run`: no run changes which faults are to happen.
-/

import AssetFetch.Proofs.Confined
import AssetFetch.Proofs.Runs

namespace AssetFetch

/-! ### What one file holds -/

namespace FileTree

section OneFile

variable {tree one two : FileTree} {file : Path} {location : Location}

/-- The path names a file, which is at the location. -/
def HasFile (tree : FileTree) (path : Path) (location : Location) : Prop :=
  tree.locate path = .ok (.named location)
    ∧ ∃ content mode, tree.get? location = some (.file content mode)

/-- Two trees that differ in nothing but what one file holds. -/
def DifferIn (file : Path) (one two : FileTree) : Prop :=
  ∃ location, one.HasFile file location ∧ two.HasFile file location
    ∧ one.erase location = two.erase location

theorem Accepts.hasFile_put (accepts : tree.Accepts file location) (content : Bytes) (mode : Nat) :
    (tree.put location (.file content mode)).HasFile file location :=
  ⟨accepts.locate_put _, content, mode, accepts.get?_put _⟩

theorem Accepts.differIn_put (accepts : tree.Accepts file location) (content content' : Bytes)
    (mode mode' : Nat) :
    DifferIn file (tree.put location (.file content mode))
      (tree.put location (.file content' mode')) :=
  ⟨location, accepts.hasFile_put content mode, accepts.hasFile_put content' mode',
    erase_put.trans erase_put.symm⟩

theorem HasFile.remove_eq (has : tree.HasFile file location) :
    tree.remove file = .ok (tree.erase location) := by
  obtain ⟨located, content, mode, found⟩ := has
  simp only [remove, located, found]

theorem erase_put_of_ne {place : Location} (apart : location ≠ place) (entry : Entry) :
    (tree.put place entry).erase location = (tree.erase location).put place entry := by
  have kept : (place != location) = true := bne_iff_ne.mpr (Ne.symm apart)
  simp only [put, erase, List.filter_cons, kept, if_true, List.filter_filter, Bool.and_comm]

/-- Bytes added to a file elsewhere leave a place as it is, and those added to the file there are
gone with it. -/
theorem erase_appendAt (place : Location) (bytes : Bytes) :
    (tree.appendAt place bytes).erase location
      = if place = location then tree.erase location
        else (tree.erase location).appendAt place bytes := by
  by_cases same : place = location
  · subst same
    rw [if_pos rfl]
    unfold appendAt
    split
    · split
      · rfl
      · exact erase_put
    · rfl
  · rw [if_neg same]
    unfold appendAt
    rw [get?_erase_of_ne same]
    split
    · split
      · rfl
      · exact erase_put_of_ne (Ne.symm same) _
    · rfl

theorem HasFile.appendAt (has : tree.HasFile file location) (place : Location) (bytes : Bytes) :
    (tree.appendAt place bytes).HasFile file location := by
  obtain ⟨located, content, mode, found⟩ := has
  have shape : tree.SameShape (tree.appendAt place bytes) := sameShape_appendAt bytes
  refine ⟨(locate_of_sameShape shape file).trans located, ?_⟩
  have kind := shape location
  rw [found, Option.map_some] at kind
  obtain ⟨entry, there, isFile⟩ := Option.map_eq_some_iff.mp kind
  cases entry with
  | directory => cases isFile
  | file content mode => exact ⟨content, mode, there⟩

/-- Bytes added to a file make no difference. -/
theorem DifferIn.appendAt (differ : DifferIn file one two) (place : Location) (bytes : Bytes) :
    DifferIn file (one.appendAt place bytes) (two.appendAt place bytes) := by
  obtain ⟨location, here, there, same⟩ := differ
  refine ⟨location, here.appendAt place bytes, there.appendAt place bytes, ?_⟩
  rw [erase_appendAt, erase_appendAt, same]

end OneFile

end FileTree

/-! ### Side by side -/

variable {α β : Type} {file : Path} {one two first second world later : World}

section Alike

/-- Two worlds that differ in nothing but what one file holds. -/
inductive DifferAt (file : Path) : World → World → Prop
  | files (world : World) {tree tree' : FileTree} : FileTree.DifferIn file tree tree' →
      DifferAt file (world.withTree tree) (world.withTree tree')

/-- Two attempts come out alike: they are the same, or they fail with the same failure and leave
worlds that differ in nothing but what one file holds. -/
inductive ComeOutAlike (file : Path) :
    Except Failure α × World → Except Failure α × World → Prop
  | same (attempted : Except Failure α × World) : ComeOutAlike file attempted attempted
  | failed (failure : Failure) {one two : World} : DifferAt file one two →
      ComeOutAlike file (.error failure, one) (.error failure, two)

namespace ComeOutAlike

theorem fst_eq {left right : Except Failure α × World} (alike : ComeOutAlike file left right) :
    left.1 = right.1 := by
  cases alike with
  | same => rfl
  | failed => rfl

theorem tree_eq_or_differIn {left right : Except Failure α × World}
    (alike : ComeOutAlike file left right) :
    left.2.tree = right.2.tree ∨ FileTree.DifferIn file left.2.tree right.2.tree := by
  cases alike with
  | same => exact .inl rfl
  | failed failure differ =>
    obtain ⟨world, differ⟩ := differ
    exact .inr differ

/-- What begins alike goes on alike. -/
theorem bind {action other : Action α} (next : α → Action β)
    (alike : ComeOutAlike file (first.attempt action) (second.attempt other)) :
    ComeOutAlike file (first.attempt (action >>= next)) (second.attempt (other >>= next)) := by
  rw [World.attempt_bind, World.attempt_bind]
  generalize first.attempt action = left at alike
  generalize second.attempt other = right at alike
  cases alike with
  | same => exact .same _
  | failed failure differ => exact .failed failure differ

/-- What goes on alike after the same beginning comes out alike. -/
theorem after {action : Action α} {next other : α → Action β}
    (alike : ∀ value later, world.attempt action = (.ok value, later) →
      ComeOutAlike file (later.attempt (next value)) (later.attempt (other value))) :
    ComeOutAlike file (world.attempt (action >>= next)) (world.attempt (action >>= other)) := by
  rw [World.attempt_bind, World.attempt_bind]
  cases attempted : world.attempt action with
  | mk result later =>
    cases result with
    | ok value => exact alike value later attempted
    | error failure => exact .same _

/-- What is handled alike comes out alike. -/
theorem orElse {action other : Action α} {handler : Failure → Action α}
    (alike : ComeOutAlike file (first.attempt action) (second.attempt other))
    (handled : ∀ failure one two, DifferAt file one two →
      ComeOutAlike file (one.attempt (handler failure)) (two.attempt (handler failure))) :
    ComeOutAlike file (first.attempt (action.orElse handler))
      (second.attempt (other.orElse handler)) := by
  rw [World.attempt_orElse, World.attempt_orElse]
  generalize first.attempt action = left at alike
  generalize second.attempt other = right at alike
  cases alike with
  | same => exact .same _
  | failed failure differ => exact handled failure _ _ differ

end ComeOutAlike

end Alike

/-! ### Steps that make no difference -/

section Steps

theorem DifferAt.toConsole (differ : DifferAt file one two) (record : LogLine) (line : String) :
    DifferAt file (one.toConsole record line) (two.toConsole record line) := by
  obtain ⟨world, differ⟩ := differ
  unfold World.toConsole World.withTree
  simp only
  split
  · split
    · exact .files (world.tell line) differ
    · exact .files world differ
  · exact .files world differ

theorem DifferAt.toLogFile (differ : DifferAt file one two) (record : LogLine) (line : String) :
    DifferAt file (one.toLogFile record line) (two.toLogFile record line) := by
  obtain ⟨world, differ⟩ := differ
  unfold World.toLogFile World.withTree
  simp only
  split
  · split
    · exact .files world (differ.appendAt _ _)
    · exact .files world differ
  · exact .files world differ

/-- A line for the log makes no difference. -/
theorem DifferAt.log (differ : DifferAt file one two) (record : LogLine) :
    DifferAt file (one.log record) (two.log record) := by
  obtain ⟨world, differ⟩ := differ
  have noted := DifferAt.files { world with records := world.records ++ [record] } differ
  have shown := (noted.toConsole record (record.written World.time ++ "\n")).toLogFile record
    (record.written World.time ++ "\n")
  by_cases accepted : world.setup.accepts record = true
  · have left : ∀ tree, (world.withTree tree).log record = _ := fun _ => if_pos accepted
    rw [left, left]
    exact shown
  · have left : ∀ tree, (world.withTree tree).log record = _ := fun _ => if_neg accepted
    rw [left, left]
    exact noted

/-- A failure after a line for the log is the same in both worlds. -/
theorem comeOutAlike_log_throw (differ : DifferAt file one two) (severity : Severity)
    (logger message : String) (failure : Failure) :
    ComeOutAlike file
      (one.attempt (do log severity logger message; throw failure : Action α))
      (two.attempt (do log severity logger message; throw failure : Action α)) := by
  rw [World.attempt_bind_of_ok (World.attempt_log ..),
    World.attempt_bind_of_ok (World.attempt_log ..)]
  exact .failed failure (differ.log _)

/-- The response is closed, whatever came before. -/
theorem World.attempt_whatever_close (action : Action α) (world : World) :
    world.attempt (action.whatever (.ofProgram (perform .close)))
      = ((world.attempt action).1, (world.attempt action).2.closeLast) := by
  refine (World.run_bind action.outcome _ world).trans ?_
  unfold attempt
  cases world.run action.outcome with
  | mk result later => cases result <;> rfl

theorem ComeOutAlike.whatever_close {action other : Action α}
    (alike : ComeOutAlike file (first.attempt action) (second.attempt other)) :
    ComeOutAlike file (first.attempt (action.whatever (.ofProgram (perform .close))))
      (second.attempt (other.whatever (.ofProgram (perform .close)))) := by
  rw [World.attempt_whatever_close, World.attempt_whatever_close]
  generalize first.attempt action = left at alike
  generalize second.attempt other = right at alike
  cases alike with
  | same => exact .same _
  | failed failure differ =>
    obtain ⟨world, differ⟩ := differ
    exact .failed failure (.files world.closeLast differ)

/-- What has been removed makes no difference. -/
theorem DifferAt.onFile_remove (differ : DifferAt file one two)
    (removable : one.faults.remove = none) :
    one.onFile (.remove file) = two.onFile (.remove file) := by
  obtain ⟨world, location, here, there, same⟩ := differ
  have free : world.faults.remove = none := removable
  simp only [World.onFile, World.withoutLogAt, World.withTree, free, here.remove_eq,
    there.remove_eq, here.1, there.1, same]
  cases world.logFile with
  | none => rfl
  | some opened =>
    simp only
    split <;> rfl

theorem DifferAt.faults_eq (differ : DifferAt file one two) : one.faults = two.faults := by
  obtain ⟨world, differ⟩ := differ
  rfl

/-- No step changes which faults are to happen, -/
theorem World.faults_answer (world : World) (effect : Effect) :
    (world.answer effect).2.faults = world.faults := by
  cases effect with
  | file action =>
    cases action <;> simp only [answer, onFile, withMode, changing, withoutLogAt] <;>
      repeat' split
    all_goals rfl
  | keyring action =>
    simp only [answer, onKeyring]
    split <;> split <;> rfl
  | send request =>
    simp only [answer, onSend]
    split <;> rfl
  | log record =>
    simp only [answer, World.log, toConsole, toLogFile]
    repeat' split
    all_goals rfl
  | openLog path level =>
    simp only [answer, openLog]
    split <;> rfl
  | print text =>
    simp only [answer, print]
    split <;> rfl
  | report percent delta =>
    simp only [answer, report]
    split <;> rfl
  | progress read total =>
    simp only [answer, progress]
    repeat' split
    all_goals rfl
  | _ => rfl

/-- nor does a run. -/
theorem World.faults_run (program : Program α) (world : World) :
    (world.run program).2.faults = world.faults := by
  induction program generalizing world with
  | done value => rfl
  | ask effect next ih => exact (ih _ _).trans (faults_answer world effect)

end Steps

end AssetFetch
