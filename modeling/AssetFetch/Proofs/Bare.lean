/-
**A world with a log file, and the same world without.**

A file for the log changes nothing but itself: what a program does that works on a file of its own,
it does as well where there is none.

* `FileTree.AlikeBut`: trees of one shape that are the same but for what is at one place, and
  operations on a file elsewhere, which come to the same in both;
* `World.Bares`: a world whose log goes to a place at most, and one without a log file, which are
  the same but for what is at that place;
* `Bares.answer`, `Bares.run`: **a program that works on a file of another name comes to the same in
  both**, and leaves worlds that are so again.
-/

import AssetFetch.Proofs.Confined
import AssetFetch.Proofs.World

namespace AssetFetch

namespace FileTree

/-! ### Trees that differ in the log -/

/-- Two trees of one user and one shape that are the same but for what is at one place. -/
structure AlikeBut (spot : Location) (tree other : FileTree) : Prop where
  user : other.privileged = tree.privileged
  shape : tree.SameShape other
  elsewhere : ∀ place ≠ spot, other.get? place = tree.get? place

/-- Two outcomes of an operation: the same refusal, or two such trees. -/
def AlikeResults (spot : Location) : Except FileFault FileTree → Except FileFault FileTree → Prop
  | .ok tree, .ok other => AlikeBut spot tree other
  | .error fault, .error twin => fault = twin
  | _, _ => False

variable {tree other : FileTree} {spot location : Location} {path : Path}

theorem AlikeResults.cases {result twin : Except FileFault FileTree}
    (alike : AlikeResults spot result twin) :
    (∃ fault, result = .error fault ∧ twin = .error fault)
      ∨ ∃ tree other, result = .ok tree ∧ twin = .ok other ∧ AlikeBut spot tree other := by
  cases result with
  | ok tree =>
    cases twin with
    | ok other => exact .inr ⟨tree, other, rfl, rfl, alike⟩
    | error fault => exact alike.elim
  | error fault =>
    cases twin with
    | ok other => exact alike.elim
    | error same =>
      cases alike
      exact .inl ⟨fault, rfl, rfl⟩

/-- The entry at a place after another has been put there. -/
theorem get?_put (place : Location) (entry : Entry) :
    (tree.put location entry).get? place
      = if place.isGiven then some .directory
        else if place = location then some entry else tree.get? place := by
  by_cases given : place.isGiven = true
  · rw [if_pos given, get?_of_given given]
  · rw [if_neg given]
    by_cases here : place = location
    · subst here
      rw [if_pos rfl, get?_put_self (Bool.eq_false_iff.mpr given)]
    · rw [if_neg here, get?_put_of_ne here]

theorem get?_erase (place : Location) :
    (tree.erase location).get? place
      = if place.isGiven then some .directory
        else if place = location then none else tree.get? place := by
  by_cases given : place.isGiven = true
  · rw [if_pos given, get?_of_given given]
  · rw [if_neg given]
    by_cases here : place = location
    · subst here
      rw [if_pos rfl, get?_erase_self (Bool.eq_false_iff.mpr given)]
    · rw [if_neg here, get?_erase_of_ne here]

namespace AlikeBut

theorem refl (spot : Location) (tree : FileTree) : AlikeBut spot tree tree :=
  ⟨rfl, fun _ => rfl, fun _ _ => rfl⟩

variable (alike : AlikeBut spot tree other)

include alike

theorem put (location : Location) (entry : Entry) :
    AlikeBut spot (tree.put location entry) (other.put location entry) where
  user := alike.user
  shape place := by
    rw [get?_put, get?_put]
    split
    · rfl
    · split
      · rfl
      · exact alike.shape place
  elsewhere place apart := by
    rw [get?_put, get?_put, alike.elsewhere place apart]

theorem erase (location : Location) :
    AlikeBut spot (tree.erase location) (other.erase location) where
  user := alike.user
  shape place := by
    rw [get?_erase, get?_erase]
    split
    · rfl
    · split
      · rfl
      · exact alike.shape place
  elsewhere place apart := by
    rw [get?_erase, get?_erase, alike.elsewhere place apart]

/-- Bytes that are added to the log. -/
theorem appendAt_log (bytes : Bytes) : AlikeBut spot (tree.appendAt spot bytes) other where
  user := by rw [alike.user, privileged_appendAt]
  shape place := (alike.shape place).trans (sameShape_appendAt bytes place).symm
  elsewhere place apart :=
    (alike.elsewhere place apart).trans (get?_appendAt_of_ne apart bytes).symm

/-- A path of another name leads to the same entry in both. -/
theorem get?_of_located (away : spot.getLast? ≠ some path.fileName)
    (located : tree.locate path = .ok (.named location)) :
    other.get? location = tree.get? location := by
  refine alike.elsewhere location ?_
  rintro rfl
  exact away (getLast?_of_placed (locate_eq_named_iff.mp located).1)

variable (away : spot.getLast? ≠ some path.fileName)

include away

theorem createNew (mode : Int) :
    AlikeResults spot (tree.createNew path mode) (other.createNew path mode) := by
  unfold FileTree.createNew
  rw [locate_of_sameShape alike.shape]
  cases located : tree.locate path with
  | error fault => rfl
  | ok place =>
    cases place with
    | fixed location => rfl
    | named location =>
      simp only [alike.get?_of_located away located]
      cases tree.get? location with
      | none => exact alike.put location _
      | some entry => rfl

theorem append (bytes : Bytes) :
    AlikeResults spot (tree.append path bytes) (other.append path bytes) := by
  unfold FileTree.append
  rw [locate_of_sameShape alike.shape]
  cases located : tree.locate path with
  | error fault => rfl
  | ok place =>
    cases place with
    | fixed location => rfl
    | named location =>
      simp only [appendAt, alike.get?_of_located away located, alike.user]
      cases tree.get? location with
      | none => exact alike
      | some entry =>
        cases entry with
        | directory => exact alike
        | file content mode =>
          cases bytes.isEmpty with
          | true => exact alike
          | false => exact alike.put location _

theorem setMode (mode : Int) :
    AlikeResults spot (tree.setMode path mode) (other.setMode path mode) := by
  unfold FileTree.setMode
  rw [locate_of_sameShape alike.shape]
  cases located : tree.locate path with
  | error fault => rfl
  | ok place =>
    cases place with
    | fixed location => exact alike
    | named location =>
      simp only [alike.get?_of_located away located]
      cases tree.get? location with
      | none => rfl
      | some entry =>
        cases entry with
        | directory => exact alike
        | file content mode => exact alike.put location _

theorem remove : AlikeResults spot (tree.remove path) (other.remove path) := by
  unfold FileTree.remove
  rw [locate_of_sameShape alike.shape]
  cases located : tree.locate path with
  | error fault => rfl
  | ok place =>
    cases place with
    | fixed location => rfl
    | named location =>
      simp only [alike.get?_of_located away located]
      cases tree.get? location with
      | none => rfl
      | some entry =>
        cases entry with
        | directory => rfl
        | file content mode => exact alike.erase location

end AlikeBut

end FileTree

/-! ### Worlds that differ in the log -/

namespace World

open FileTree

variable {logged bare : World} {spot : Location} {file : Path}

/-- A world whose log goes to a place at most, and one without a log file, which are the same for a
program but for what is at that place. -/
structure Bares (spot : Location) (logged bare : World) : Prop where
  tree : AlikeBut spot logged.tree bare.tree
  logFile : ∀ place ∈ logged.logFile, place = spot
  closed : bare.logFile = none
  faults : bare.faults = logged.faults
  script : bare.script = logged.script
  name : bare.name = logged.name
  cancelled : bare.cancelled = logged.cancelled
  cancelAt : bare.follower.cancelAt = logged.follower.cancelAt
  failAt : bare.follower.failAt = logged.follower.failAt
  calls : bare.follower.calls = logged.follower.calls

/-- The world without its log file. -/
def unlogged (world : World) : World := { world with logFile := none }

theorem bares_unlogged {world : World} (logFile : ∀ place ∈ world.logFile, place = spot) :
    Bares spot world world.unlogged where
  tree := .refl spot world.tree
  logFile := logFile
  closed := rfl
  faults := rfl
  script := rfl
  name := rfl
  cancelled := rfl
  cancelAt := rfl
  failAt := rfl
  calls := rfl

namespace Bares

variable (bares : Bares spot logged bare)

include bares

theorem withTree {tree other : FileTree} (alike : AlikeBut spot tree other) :
    Bares spot (logged.withTree tree) (bare.withTree other) :=
  { bares with tree := alike }

/-- What comes of an operation on files. -/
theorem changing {paths : List Path} {result twin : Except FileFault FileTree}
    (alike : AlikeResults spot result twin) :
    (bare.changing paths twin).1 = (logged.changing paths result).1
      ∧ Bares spot (logged.changing paths result).2 (bare.changing paths twin).2 := by
  rcases alike.cases with ⟨fault, rfl, rfl⟩ | ⟨tree, other, rfl, rfl, same⟩
  · exact ⟨rfl, bares⟩
  · exact ⟨rfl, bares.withTree same⟩

theorem withMode {path : Path} {mode : Given Int} {result twin : Int → Except FileFault FileTree}
    (alike : ∀ wished, AlikeResults spot (result wished) (twin wished)) :
    (bare.withMode path mode twin).1 = (logged.withMode path mode result).1
      ∧ Bares spot (logged.withMode path mode result).2 (bare.withMode path mode twin).2 := by
  unfold World.withMode
  split
  · exact ⟨rfl, bares⟩
  · exact ⟨rfl, bares⟩
  · exact bares.changing (alike _)
  · exact ⟨rfl, bares⟩
  · split
    · exact ⟨rfl, bares⟩
    · exact bares.changing (alike _)

/-- A path of another name leaves the log open. -/
theorem withoutLogAt (away : spot.getLast? ≠ some file.fileName) :
    logged.withoutLogAt file = logged ∧ bare.withoutLogAt file = bare := by
  constructor
  · refine withoutLogAt_of_named fun place opened => ?_
    rw [bares.logFile place opened]
    exact away
  · simp only [World.withoutLogAt, bares.closed]

/-- An operation on a file of another name. -/
theorem onFile (away : spot.getLast? ≠ some file.fileName) {action : FileAction}
    (own : action.IsOn file) :
    (bare.onFile action).1 = (logged.onFile action).1
      ∧ Bares spot (logged.onFile action).2 (bare.onFile action).2 := by
  cases action with
  | create path mode =>
    cases own
    exact bares.withMode (bares.tree.createNew away)
  | append path bytes =>
    cases own
    exact bares.changing (bares.tree.append away bytes)
  | flush path | close path => exact ⟨rfl, bares⟩
  | sync path =>
    simp only [World.onFile, bares.faults]
    cases logged.faults.sync <;> exact ⟨rfl, bares⟩
  | setMode path mode =>
    cases own
    simp only [World.onFile, bares.faults]
    cases logged.faults.setMode with
    | some failure => exact ⟨rfl, bares⟩
    | none => exact bares.withMode (bares.tree.setMode away)
  | remove path =>
    cases own
    simp only [World.onFile, bares.faults]
    cases logged.faults.remove with
    | some failure => exact ⟨rfl, bares⟩
    | none =>
      obtain ⟨open', closed⟩ := bares.withoutLogAt away
      rw [open', closed]
      rcases (bares.tree.remove away).cases with
        ⟨fault, removed, twin⟩ | ⟨tree, other, removed, twin, same⟩
      · rw [removed, twin]
        exact ⟨rfl, bares⟩
      · rw [removed, twin]
        exact ⟨rfl, bares.withTree same⟩
  | overwrite _ | rename _ _ | makeDirectory _ | isDirectory _ | read _ => exact own.elim

theorem send (request : Request) :
    (bare.onSend request).1 = (logged.onSend request).1
      ∧ Bares spot (logged.onSend request).2 (bare.onSend request).2 := by
  unfold onSend
  rw [bares.script]
  cases logged.script with
  | nil => exact ⟨rfl, { bares with script := rfl }⟩
  | cons reply others =>
    cases reply with
    | error failure => exact ⟨rfl, { bares with script := rfl }⟩
    | ok response => exact ⟨rfl, { bares with script := rfl }⟩

/-- A line for the log goes to the log file if there is one. -/
theorem log_logged (record : LogLine) : Bares spot (logged.log record) bare := by
  obtain ⟨_, _, same, rfl | ⟨location, bytes, opened, rfl⟩⟩ := logged.exists_of_log record
  · rw [same]
    exact { bares with }
  · obtain rfl := bares.logFile location opened
    rw [same]
    exact { bares with tree := bares.tree.appendAt_log bytes }

theorem log_bare (record : LogLine) : Bares spot logged (bare.log record) := by
  obtain ⟨_, same⟩ := World.exists_of_log_of_unlogged bares.closed record
  rw [same]
  exact { bares with }

theorem report_logged (percent delta : Int) : Bares spot (logged.report percent delta) bare := by
  obtain ⟨_, _, same⟩ := logged.exists_of_report percent delta
  rw [same]
  exact { bares with }

theorem report_bare (percent delta : Int) : Bares spot logged (bare.report percent delta) := by
  obtain ⟨_, _, same⟩ := bare.exists_of_report percent delta
  rw [same]
  exact { bares with }

theorem progress (read total : Nat) :
    (bare.progress read total).1 = (logged.progress read total).1
      ∧ Bares spot (logged.progress read total).2 (bare.progress read total).2 := by
  unfold World.progress
  simp only [bares.failAt, bares.cancelAt, bares.calls, bares.cancelled]
  split
  · split
    · exact ⟨rfl, { bares with cancelled := rfl, calls := rfl, failAt := rfl, cancelAt := rfl }⟩
    · exact ⟨rfl, { bares with cancelled := rfl, calls := rfl, failAt := rfl, cancelAt := rfl }⟩
  · exact ⟨rfl, { bares with cancelled := rfl, calls := rfl, failAt := rfl, cancelAt := rfl }⟩

/-- **One effect in both.** -/
theorem answer (away : spot.getLast? ≠ some file.fileName) {effect : Effect}
    (owns : effect.Owns file) :
    (bare.answer effect).1 = (logged.answer effect).1
      ∧ Bares spot (logged.answer effect).2 (bare.answer effect).2 := by
  cases effect with
  | file action => exact bares.onFile away owns
  | keyring action => exact owns.elim
  | openLog path level | setUpLog level console | print text => exact owns.elim
  | send request => exact bares.send request
  | log record => exact ⟨rfl, (bares.log_logged record).log_bare record⟩
  | randomName => exact ⟨bares.name, bares⟩
  | isCancelled => exact ⟨bares.cancelled, bares⟩
  | report percent delta =>
    exact ⟨rfl, (bares.report_logged percent delta).report_bare percent delta⟩
  | progress read total => exact bares.progress read total
  | close | tell text | announce title => exact ⟨rfl, { bares with }⟩

/-- **A program that works on a file of another name comes to the same in both worlds.** -/
theorem run (away : spot.getLast? ≠ some file.fileName) {α : Type} {program : Program α}
    (owns : program.AllAsked (Effect.Owns file)) :
    (bare.run program).1 = (logged.run program).1
      ∧ Bares spot (logged.run program).2 (bare.run program).2 := by
  induction owns generalizing logged bare with
  | done value => exact ⟨rfl, bares⟩
  | ask effect next here _ ih =>
    obtain ⟨same, later⟩ := bares.answer away here
    simp only [World.run, same]
    exact ih _ later

end Bares

end World

end AssetFetch
