/-
**Downloads to one destination at the same time.**

* `Crowd`, `Crowd.step`, `Crowd.run`: downloads that share the files, one effect of one of them
  after the other, in any order;
* `Member`: one of them is where it would be on its own, and the shared files agree on its new file
  with those it would have;
* `Coherent`, `coherent_step`, `coherent_run`: so it is with all of them, at every step of every
  run;
* `Consistent`, `concurrent_downloads_consistent`: at every moment the destination is as it was, or
  the complete file of the one that renamed last.
-/

import AssetFetch.Proofs.Download.Atomic
import AssetFetch.Proofs.Download.Settling
import AssetFetch.Proofs.Edit
import Mathlib.Data.List.Nodup
import Mathlib.Logic.Function.Basic

namespace AssetFetch

open FileTree

/-- Whether an effect is a rename that was done. -/
def Effect.hasRenamed : (effect : Effect) → effect.Reply → Bool
  | .file (.rename _ _), .ok _ => true
  | _, _ => false

/-- Programs under way that share the files: what is left of each, how far its own things have come
(the files in its scene are not looked at), and who has renamed a file, one after the other. -/
structure Crowd (ι : Type) where
  tree : FileTree
  rest : ι → Program (Except Failure Path)
  scene : ι → Scene
  renamed : List ι

namespace Crowd

variable {ι : Type} [DecidableEq ι]

/-- Nothing has happened yet. -/
def start (tree : FileTree) (programs : ι → Program (Except Failure Path)) : Crowd ι :=
  ⟨tree, programs, fun _ => .start tree, []⟩

/-- The crowd after one of its members has performed an effect. -/
def after (crowd : Crowd ι) (member : ι) (rest : Program (Except Failure Path)) (scene : Scene)
    (moved : Bool) : Crowd ι :=
  { tree := scene.tree
    rest := Function.update crowd.rest member rest
    scene := Function.update crowd.scene member scene
    renamed := if moved then crowd.renamed ++ [member] else crowd.renamed }

/-- One of the programs performs its next effect on the shared files, if it has not ended. -/
def step (surroundings : ι → Surroundings) (crowd : Crowd ι) (member : ι) : Crowd ι :=
  match crowd.rest member with
  | .done _ => crowd
  | .ask effect next =>
    let answered :=
      (surroundings member).answer { crowd.scene member with tree := crowd.tree } effect
    crowd.after member (next answered.1) answered.2 (effect.hasRenamed answered.1)

theorem mem_renamed_after {crowd : Crowd ι} {i j : ι} {rest : Program (Except Failure Path)}
    {scene : Scene} {moved : Bool} :
    j ∈ (crowd.after i rest scene moved).renamed ↔ j ∈ crowd.renamed ∨ (moved = true ∧ j = i) := by
  unfold after
  cases moved <;> simp

/-- The programs perform effects in the order of a schedule. -/
def run (surroundings : ι → Surroundings) (crowd : Crowd ι) (schedule : List ι) : Crowd ι :=
  schedule.foldl (step surroundings) crowd

end Crowd

namespace Download

open Program

/-! ### One of the crowd -/

section Members

variable {surroundings : Surroundings} {tree shared own after ownAfter : FileTree}
  {file destination : Path} {program rest : Program (Except Failure Path)} {scene later : Scene}
  {settled : Prop} {effect : Effect} {next : effect.Reply → Program (Except Failure Path)}

/-- A program in a crowd is where it would be on its own, with files of its own that agree with the
shared ones on its new file; and it has renamed that, or may yet do so. -/
structure Member (surroundings : Surroundings) (tree : FileTree) (file destination : Path)
    (program : Program (Except Failure Path)) (shared own : FileTree)
    (rest : Program (Except Failure Path)) (scene : Scene) (settled : Prop) : Prop where
  agree : Agree tree file destination shared own
  course : surroundings.run rest { scene with tree := own } = surroundings.run program (.start tree)
  ending : settled → rest.Always Effect.IsQuiet (· = .ok destination)
  going : ¬ settled → rest.Settling surroundings.name file destination Fails (· = .ok destination)

/-- The reply to a quiet effect, and all but the files after it, do not depend on the files. -/
theorem answer_of_quiet (quiet : effect.IsQuiet) (scene : Scene) (tree : FileTree) :
    surroundings.answer { scene with tree } effect
      = ((surroundings.answer scene effect).1,
        { (surroundings.answer scene effect).2 with tree }) := by
  cases effect with
  | file action => exact quiet.elim
  | _ => rfl

/-- What one effect of a program does to the shared files: an edit of its new file, or the move of
that file to the destination. -/
inductive Change (tree : FileTree) (file destination : Path) (shared after : FileTree) : Bool → Prop
  | edit (edit : Edit) : edit.Within tree file → after = edit.apply shared →
      Change tree file destination shared after false
  | move (source target : Location) (content : Bytes) (mode : Nat) :
      tree.Accepts file source → tree.Accepts destination target →
      after = (shared.erase source).put target (.file content mode) →
      Change tree file destination shared after true

/-- A program performs the same effect in the crowd and on its own. -/
structure Performs (surroundings : Surroundings) (tree : FileTree) (file destination : Path)
    (effect : Effect) (scene : Scene) (shared own : FileTree) (reply : effect.Reply)
    (later : Scene) (after ownAfter : FileTree) (moved : Bool) : Prop where
  answered : surroundings.answer { scene with tree := shared } effect
    = (reply, { later with tree := after })
  alone : surroundings.answer { scene with tree := own } effect
    = (reply, { later with tree := ownAfter })
  agree : Agree tree file destination after ownAfter
  change : Change tree file destination shared after moved
  renames : effect.hasRenamed reply = moved
  status : moved = true → after.status destination = ownAfter.status destination

theorem performs_quiet (surroundings : Surroundings)
    (agree : Agree tree file destination shared own) (quiet : effect.IsQuiet)
    (scene : Scene) :
    ∃ reply later, Performs surroundings tree file destination effect scene shared own reply later
      shared own false := by
  refine ⟨_, (surroundings.answer scene effect).2, answer_of_quiet quiet scene shared,
    answer_of_quiet quiet scene own, agree, .edit .keep trivial rfl, ?_, nofun⟩
  cases effect with
  | file action => exact quiet.elim
  | _ => rfl

theorem performs_own (surroundings : Surroundings) {action : FileAction}
    (agree : Agree tree file destination shared own) (beside : Beside file destination)
    (owns : action.IsOn file) (scene : Scene) :
    ∃ reply later after ownAfter, Performs surroundings tree file destination (.file action) scene
      shared own reply later after ownAfter false := by
  obtain ⟨reply, edit, within, first, second⟩ :=
    agree.exists_edit beside.parent owns surroundings scene
  refine ⟨reply, { scene with
    writes := if Surroundings.isWrite action then scene.writes + 1 else scene.writes },
    edit.apply shared, edit.apply own, ?_, ?_, ⟨?_, ?_, ?_⟩, .edit edit within rfl, ?_,
    nofun⟩
  · simp only [Surroundings.answer, first]
  · simp only [Surroundings.answer, second]
  · exact agree.first.apply beside.parent within
  · exact agree.second.apply beside.parent within
  · exact fun location located => within.get?_apply_own (agree.same location located)
  · cases action with
    | rename source target => exact owns.elim
    | _ => rfl

theorem performs_rename (surroundings : Surroundings)
    (agree : Agree tree file destination shared own) (beside : Beside file destination)
    (unused : ∀ location, tree.locate file = .ok (.named location) → tree.get? location = none)
    (scene : Scene) :
    ∃ reply after ownAfter moved, Performs surroundings tree file destination
      (.file (.rename file destination)) scene shared own reply scene after ownAfter moved := by
  rcases agree.exists_move beside unused surroundings scene with ⟨failure, first, second⟩
    | ⟨source, target, content, mode, accepts, placed, _, first, second⟩
  · refine ⟨.error failure, shared, own, false, ?_, ?_, agree, .edit .keep trivial rfl, rfl,
      nofun⟩
    · simp only [Surroundings.answer, first]
      rfl
    · simp only [Surroundings.answer, second]
      rfl
  · have apart : source ≠ target := fun same =>
      ne_of_name_ne beside.name (locate_eq_named_iff.mp accepts.1).1
        (locate_eq_named_iff.mp placed.1).1 same.symm
    have one : tree.Siblings destination ((shared.erase source).put target (.file content mode)) :=
      agree.first.move beside.parent accepts placed
    have two : tree.Siblings destination ((own.erase source).put target (.file content mode)) :=
      agree.second.move beside.parent accepts placed
    refine ⟨.ok (), _, _, true, ?_, ?_, ⟨one, two, ?_⟩,
      .move source target content mode accepts placed rfl, rfl, fun _ => ?_⟩
    · simp only [Surroundings.answer, first]
      rfl
    · simp only [Surroundings.answer, second]
      rfl
    · intro location located
      cases accepts.1.symm.trans located
      have free := not_given_of_ne_directory accepts.2
      rw [get?_put_of_ne apart, get?_put_of_ne apart, get?_erase_self free, get?_erase_self free]
    · refine one.status_of_get? rfl two fun place located => ?_
      cases placed.1.symm.trans located
      have free := not_given_of_ne_directory placed.2
      rw [get?_put_self free, get?_put_self free]

/-- What a member performs leads on along its own run. -/
theorem Performs.course {reply : effect.Reply} {moved : Bool}
    (performs : Performs surroundings tree file destination effect scene shared own reply later
      after ownAfter moved) :
    surroundings.run (next reply) { later with tree := ownAfter }
      = surroundings.run (.ask effect next) { scene with tree := own } := by
  show _ = surroundings.run (next (surroundings.answer { scene with tree := own } effect).1)
    (surroundings.answer { scene with tree := own } effect).2
  rw [performs.alone]

/-- A member that has renamed its file performs quiet effects only. -/
theorem Member.performs_ending
    (member : Member surroundings tree file destination program shared own (.ask effect next) scene
      settled) (done : settled) :
    ∃ reply later, Performs surroundings tree file destination effect scene shared own reply later
        shared own false
      ∧ (next reply).Always Effect.IsQuiet (· = .ok destination) := by
  cases member.ending done with
  | ask _ _ quiet rest =>
    obtain ⟨reply, later, performs⟩ := performs_quiet surroundings member.agree quiet scene
    exact ⟨reply, later, performs, rest reply⟩

/-- A member that has not done so goes on, or renames it now. -/
theorem Member.performs_going (member : Member surroundings tree file destination program shared own
      (.ask effect next) scene settled) (beside : Beside file destination)
    (unused : ∀ location, tree.locate file = .ok (.named location) → tree.get? location = none)
    (undone : ¬ settled) :
    ∃ reply later after ownAfter moved, Performs surroundings tree file destination effect scene
        shared own reply later after ownAfter moved
      ∧ (moved = true → (next reply).Always Effect.IsQuiet (· = .ok destination))
      ∧ (moved = false →
        (next reply).Settling surroundings.name file destination Fails (· = .ok destination)) := by
  cases member.going undone with
  | named _ rest =>
    have quiet : Effect.randomName.IsQuiet := trivial
    obtain ⟨reply, later, performs⟩ := performs_quiet surroundings member.agree quiet scene
    obtain rfl : surroundings.name = reply := congrArg Prod.fst performs.answered
    exact ⟨_, later, shared, own, false, performs, nofun, fun _ => rest⟩
  | ask _ _ owns rest =>
    rcases owns.file_or_quiet with ⟨action, rfl, owns⟩ | quiet
    · obtain ⟨reply, later, after, ownAfter, performs⟩ :=
        performs_own surroundings member.agree beside owns scene
      exact ⟨reply, later, after, ownAfter, false, performs, nofun, fun _ => rest reply⟩
    · obtain ⟨reply, later, performs⟩ := performs_quiet surroundings member.agree quiet scene
      exact ⟨reply, later, shared, own, false, performs, nofun, fun _ => rest reply⟩
  | rename _ quiet rest =>
    obtain ⟨reply, after, ownAfter, moved, performs⟩ :=
      performs_rename surroundings member.agree beside unused scene
    refine ⟨reply, scene, after, ownAfter, moved, performs, ?_⟩
    have renames := performs.renames
    cases reply with
    | ok value =>
      obtain rfl : true = moved := renames
      exact ⟨fun _ => quiet, nofun⟩
    | error failure =>
      obtain rfl : false = moved := renames
      exact ⟨nofun, fun _ => rest failure⟩

/-- **One effect of one of the crowd**: it is the one that it would perform on its own, and the
shared files agree with its own ones after it as before. -/
theorem Member.performs (member : Member surroundings tree file destination program shared own
      (.ask effect next) scene settled)
    (beside : Beside file destination)
    (unused : ∀ location, tree.locate file = .ok (.named location) → tree.get? location = none) :
    ∃ reply later after ownAfter moved,
      Performs surroundings tree file destination effect scene shared own reply later after ownAfter
        moved
      ∧ Member surroundings tree file destination program after ownAfter (next reply)
        { later with tree := after } (settled ∨ moved = true)
      ∧ (settled → moved = false) := by
  by_cases done : settled
  · obtain ⟨reply, later, performs, rest⟩ := member.performs_ending done
    refine ⟨reply, later, shared, own, false, performs, ?_, fun _ => rfl⟩
    exact ⟨performs.agree, performs.course.trans member.course, fun _ => rest,
      fun undone => absurd (.inl done) undone⟩
  · obtain ⟨reply, later, after, ownAfter, moved, performs, ending, going⟩ :=
      member.performs_going beside unused done
    refine ⟨reply, later, after, ownAfter, moved, performs, ?_, fun settled => absurd settled done⟩
    have course := performs.course.trans member.course
    refine ⟨performs.agree, course, fun either => ?_, fun neither => ?_⟩
    · exact ending (either.resolve_left done)
    · exact going (by simpa [done] using neither)

/-- A member that has renamed its file has succeeded, and its own files are those at its end. -/
theorem Member.succeeds (member : Member surroundings tree file destination program shared own rest
      scene settled) (done : settled) :
    ∃ last, surroundings.run program (.start tree) = (.ok destination, last) ∧ last.tree = own := by
  obtain ⟨result, same⟩ := (member.ending done).run surroundings { scene with tree := own }
  rw [member.course] at result same
  exact ⟨_, Prod.ext result rfl, same⟩

end Members

/-! ### What a change leaves alone -/

section Changes

variable {tree shared own after : FileTree} {file other destination : Path} {moved : Bool}
  {place : Location}

/-- Nothing but the new file and the destination is changed. -/
theorem Change.get?_of_apart (change : Change tree file destination shared after moved)
    (first : tree.locate file ≠ .ok (.named place))
    (second : tree.locate destination ≠ .ok (.named place)) :
    after.get? place = shared.get? place := by
  cases change with
  | edit edit within same =>
    rw [same]
    exact within.get?_apply first
  | move source target content mode accepts placed same =>
    have apart : place ≠ source := fun here => first (here ▸ accepts.1)
    have far : place ≠ target := fun here => second (here ▸ placed.1)
    rw [same, get?_put_of_ne far, get?_erase_of_ne apart]

/-- The directories are those that were there before. -/
theorem Change.siblings (change : Change tree file destination shared after moved)
    (beside : Beside file destination) (siblings : tree.Siblings destination shared) :
    tree.Siblings destination after := by
  cases change with
  | edit edit within same =>
    rw [same]
    exact siblings.apply beside.parent within
  | move source target content mode accepts placed same =>
    rw [same]
    exact siblings.move beside.parent accepts placed

/-- An edit does not change what the destination names. -/
theorem Change.status_destination (change : Change tree file destination shared after false)
    (beside : Beside file destination) (siblings : tree.Siblings destination shared) :
    after.status destination = shared.status destination := by
  have later := change.siblings beside siblings
  cases change with
  | edit edit within same =>
    refine later.status_of_get? rfl siblings fun place located => ?_
    rw [same]
    refine within.get?_apply fun here => ?_
    exact ne_of_name_ne beside.name (locate_eq_named_iff.mp here).1
      (locate_eq_named_iff.mp located).1 rfl

/-- **What one member changes, the others do not see**: the shared files agree with theirs as
before. -/
theorem Change.agree (change : Change tree file destination shared after moved)
    (beside : Beside file destination) (also : Beside other destination)
    (apart : other.fileName ≠ file.fileName) (agree : Agree tree other destination shared own) :
    Agree tree other destination after own where
  first := change.siblings beside agree.first
  second := agree.second
  same place located := by
    have placed := (locate_eq_named_iff.mp located).1
    rw [← agree.same place located]
    refine change.get?_of_apart (fun here => ?_) fun here => ?_
    · exact ne_of_name_ne apart placed (locate_eq_named_iff.mp here).1 rfl
    · exact ne_of_name_ne also.name placed (locate_eq_named_iff.mp here).1 rfl

end Changes

/-! ### All of the crowd -/

section Crowds

variable {ι : Type} {surroundings : ι → Surroundings} {downloader : ι → Downloader}
  {job : ι → Download} {watch : ι → Watch} {tree : FileTree} {file : ι → Path} {destination : Path}
  {data : ι → Bytes}
  {crowd : Crowd ι} {own : ι → FileTree}

/-- Downloads to one destination whose new files have different names, none of them in use. -/
structure Distinct (surroundings : ι → Surroundings) (job : ι → Download) (tree : FileTree)
    (file : ι → Path) (destination : Path) : Prop where
  path : ∀ i, (job i).destination.path = .ok destination
  fresh : ∀ i, temporaryPath destination (surroundings i).name = .ok (file i)
  beside : ∀ i, Beside (file i) destination
  apart : ∀ i j, i ≠ j → (file i).fileName ≠ (file j).fileName
  unused : ∀ i entry, tree.status (file i) ≠ .ok entry

theorem Distinct.absent (distinct : Distinct surroundings job tree file destination) (i : ι) :
    ∀ location, tree.locate (file i) = .ok (.named location) → tree.get? location = none := by
  intro location located
  cases held : tree.get? location with
  | none => rfl
  | some entry => exact absurd (by simp [status, located, held]) (distinct.unused i entry)

/-- The complete file of a download. -/
def completeFile (privileged : Bool) (job : Download) (data : Bytes) : Entry :=
  .file data (finalMode privileged job.mode data)

/-- Everything lets a download succeed with its data. -/
def Complete (surroundings : Surroundings) (downloader : Downloader) (job : Download)
    (watch : Watch) (tree : FileTree) (file destination : Path) (data : Bytes) : Prop :=
  ∃ response total pieces location place, Delivers surroundings downloader job watch tree file
    destination response total pieces data location place

/-- At a moment of the crowd every member is where it would be on its own, and the destination is as
it was, or the complete file of the one that renamed last. -/
structure Coherent (surroundings : ι → Surroundings) (downloader : ι → Downloader)
    (job : ι → Download) (watch : ι → Watch) (tree : FileTree) (file : ι → Path)
    (destination : Path) (data : ι → Bytes) (crowd : Crowd ι) (own : ι → FileTree) : Prop where
  member : ∀ i, Member (surroundings i) tree (file i) destination
    (download (downloader i) (job i) (watch i)).outcome crowd.tree (own i) (crowd.rest i)
    (crowd.scene i) (i ∈ crowd.renamed)
  shown : crowd.tree.status destination
    = match crowd.renamed.getLast? with
      | none => tree.status destination
      | some i => .ok (completeFile tree.privileged (job i) (data i))
  once : crowd.renamed.Nodup
  framed : ∀ place, crowd.tree.get? place ≠ tree.get? place →
    tree.locate destination = .ok (.named place) ∨ ∃ i, tree.locate (file i) = .ok (.named place)

theorem coherent_start (distinct : Distinct surroundings job tree file destination) :
    Coherent surroundings downloader job watch tree file destination data
      (.start tree fun i => (download (downloader i) (job i) (watch i)).outcome) fun _ => tree where
  member i :=
    { agree := ⟨.refl tree destination, .refl tree destination, fun _ _ => rfl⟩
      course := rfl
      ending := fun never => absurd never List.not_mem_nil
      going := fun _ => settling_download (distinct.path i) (distinct.fresh i) }
  shown := rfl
  once := List.nodup_nil
  framed _ differs := absurd rfl differs

/-- The data of the downloads: a download that succeeds on its own is complete, and the destination
is its file with these data. -/
def Brings (surroundings : ι → Surroundings) (downloader : ι → Downloader) (job : ι → Download)
    (watch : ι → Watch) (tree : FileTree) (file : ι → Path) (destination : Path)
    (data : ι → Bytes) : Prop :=
  ∀ i result later,
    (surroundings i).attempt (download (downloader i) (job i) (watch i)) (.start tree)
      = (.ok result, later) →
    Complete (surroundings i) (downloader i) (job i) (watch i) tree (file i) destination (data i)
      ∧ ∃ place, tree.Accepts destination place
        ∧ later.tree = tree.put place (completeFile tree.privileged (job i) (data i))

theorem exists_brings (distinct : Distinct surroundings job tree file destination)
    (downloader : ι → Downloader) (watch : ι → Watch) :
    ∃ data, Brings surroundings downloader job watch tree file destination data := by
  have each : ∀ i, ∃ data, ∀ result later,
      (surroundings i).attempt (download (downloader i) (job i) (watch i)) (.start tree)
        = (.ok result, later) →
      Complete (surroundings i) (downloader i) (job i) (watch i) tree (file i) destination data
        ∧ ∃ place, tree.Accepts destination place
          ∧ later.tree = tree.put place (completeFile tree.privileged (job i) data) := by
    intro i
    cases ended : (surroundings i).attempt (download (downloader i) (job i) (watch i))
        (.start tree) with
    | mk outcome later =>
      cases outcome with
      | error failure => exact ⟨[], fun _ _ other => by cases other⟩
      | ok result =>
        obtain ⟨response, total, pieces, data, location, place, _, settled, _, delivers, _, course,
          last⟩ := exists_course (distinct.path i) (distinct.fresh i) (distinct.beside i) ended
        refine ⟨data, fun _ _ same => ?_⟩
        cases same
        refine ⟨⟨response, total, pieces, location, place, delivers⟩, place, delivers.placed, ?_⟩
        rw [last, course.renames]
        rfl
  exact ⟨fun i => (each i).choose, fun i => (each i).choose_spec⟩

/-- The destination changes when a member renames its file, and then it is that one's file. -/
theorem Coherent.shown_after {i : ι} {effect : Effect}
    {next : effect.Reply → Program (Except Failure Path)} {reply : effect.Reply} {later : Scene}
    {after ownAfter : FileTree} {moved : Bool}
    (coherent : Coherent surroundings downloader job watch tree file destination data crowd own)
    (distinct : Distinct surroundings job tree file destination)
    (brings : Brings surroundings downloader job watch tree file destination data)
    (performs : Performs (surroundings i) tree (file i) destination effect (crowd.scene i)
      crowd.tree (own i) reply later after ownAfter moved)
    (ahead : Member (surroundings i) tree (file i) destination
      (download (downloader i) (job i) (watch i)).outcome after ownAfter (next reply)
      { later with tree := after } (i ∈ crowd.renamed ∨ moved = true)) :
    after.status destination
      = match (if moved then crowd.renamed ++ [i] else crowd.renamed).getLast? with
        | none => tree.status destination
        | some i => .ok (completeFile tree.privileged (job i) (data i)) := by
  cases moved with
  | false =>
    refine Eq.trans ?_ coherent.shown
    exact performs.change.status_destination (distinct.beside i) (coherent.member i).agree.first
  | true =>
    obtain ⟨last, ended, same⟩ := ahead.succeeds (.inr rfl)
    obtain ⟨_, place, placed, complete⟩ := brings i _ _ ended
    rw [if_pos rfl, List.getLast?_concat]
    refine (performs.status rfl).trans ?_
    rw [← same, complete]
    exact placed.status_put _

/-- An ended member has left no new file, unless the removal is refused. -/
theorem Coherent.cleared
    (coherent : Coherent surroundings downloader job watch tree file destination data crowd own)
    (distinct : Distinct surroundings job tree file destination)
    (brings : Brings surroundings downloader job watch tree file destination data) {i : ι}
    {outcome : Except Failure Path} (ended : crowd.rest i = .done outcome)
    (free : (surroundings i).refusals.remove = none) (entry : Entry) :
    crowd.tree.status (file i) ≠ .ok entry := by
  have member := coherent.member i
  have parent := (distinct.beside i).parent
  rw [ended] at member
  have alone : (surroundings i).attempt (download (downloader i) (job i) (watch i)) (.start tree)
      = (outcome, { crowd.scene i with tree := own i }) := member.course.symm
  have seen : crowd.tree.status (file i) = (own i).status (file i) :=
    member.agree.first.status_of_get? parent member.agree.second member.agree.same
  have back : (own i).status (file i) = tree.status (file i) := by
    cases outcome with
    | error failure =>
      have left := tree_of_failed_download (distinct.path i) (distinct.fresh i) free alone
      cases removed : tree.remove (file i) with
      | error fault =>
        rw [removed] at left
        exact congrArg (status · (file i)) left
      | ok after =>
        obtain ⟨location, content, mode, located, held, _⟩ := remove_eq_ok_iff.mp removed
        rw [distinct.absent i location located] at held
        cases held
    | ok result =>
      obtain ⟨_, place, placed, complete⟩ := brings i _ _ alone
      have siblings := FileTree.Siblings.refl tree destination
      refine member.agree.second.status_of_get? parent siblings fun other located => ?_
      have apart := ne_of_name_ne (distinct.beside i).name (locate_eq_named_iff.mp located).1
        (locate_eq_named_iff.mp placed.1).1
      replace complete : own i
          = tree.put place (completeFile tree.privileged (job i) (data i)) := complete
      rw [complete, get?_put_of_ne (Ne.symm apart)]
  rw [seen, back]
  exact distinct.unused i entry

/-- Different random parts make different names. -/
theorem distinct_of_tokens {text : Text.LooseText} (isToken : ∀ i, IsToken (surroundings i).name)
    (apart : ∀ i j, i ≠ j → (surroundings i).name ≠ (surroundings j).name)
    (destined : ∀ i, (job i).destination = .named text) (named : (Path.ofText text).name ≠ "")
    (unused : ∀ i entry,
      tree.status ((Path.ofText text).fresh (surroundings i).name) ≠ .ok entry) :
    Distinct surroundings job tree (fun i => (Path.ofText text).fresh (surroundings i).name)
      (Path.ofText text) where
  path i := by rw [destined i]; rfl
  fresh i := temporaryPath_eq named (isToken i)
  beside i := fresh_beside (isToken i) _
  apart i j different same := apart i j different (fileName_fresh_injective same)
  unused := unused

variable [DecidableEq ι]

theorem Performs.step_eq {i : ι} {effect : Effect}
    {next : effect.Reply → Program (Except Failure Path)} {reply : effect.Reply} {later : Scene}
    {after ownAfter : FileTree} {moved : Bool} (left : crowd.rest i = .ask effect next)
    (performs : Performs (surroundings i) tree (file i) destination effect (crowd.scene i)
      crowd.tree (own i) reply later after ownAfter moved) :
    crowd.step surroundings i
      = crowd.after i (next reply) { later with tree := after } moved := by
  rw [Crowd.step, left]
  simp only [performs.answered, performs.renames]

theorem Member.of_iff {surroundings : Surroundings} {tree shared own : FileTree}
    {file destination : Path} {program rest : Program (Except Failure Path)} {scene : Scene}
    {settled same : Prop}
    (member : Member surroundings tree file destination program shared own rest scene settled)
    (iff : same ↔ settled) :
    Member surroundings tree file destination program shared own rest scene same :=
  { member with
    ending := fun done => member.ending (iff.mp done)
    going := fun undone => member.going fun done => undone (iff.mpr done) }

section Steps

variable {i : ι} {effect : Effect} {next : effect.Reply → Program (Except Failure Path)}
  {reply : effect.Reply} {later : Scene} {after ownAfter : FileTree} {moved : Bool}

/-- Every member is where it would be on its own after the effect of one of them. -/
theorem Coherent.member_after
    (coherent : Coherent surroundings downloader job watch tree file destination data crowd own)
    (distinct : Distinct surroundings job tree file destination)
    (change : Change tree (file i) destination crowd.tree after moved)
    (ahead : Member (surroundings i) tree (file i) destination
      (download (downloader i) (job i) (watch i)).outcome after ownAfter (next reply)
      { later with tree := after } (i ∈ crowd.renamed ∨ moved = true)) (j : ι) :
    Member (surroundings j) tree (file j) destination
      (download (downloader j) (job j) (watch j)).outcome after
      (Function.update own i ownAfter j) (Function.update crowd.rest i (next reply) j)
      (Function.update crowd.scene i { later with tree := after } j)
      (j ∈ (crowd.after i (next reply) { later with tree := after } moved).renamed) := by
  by_cases here : j = i
  · subst here
    rw [Function.update_self, Function.update_self, Function.update_self]
    exact ahead.of_iff (Crowd.mem_renamed_after.trans (by simp))
  · have other := coherent.member j
    have agree := change.agree (distinct.beside i) (distinct.beside j) (distinct.apart j i here)
      other.agree
    rw [Function.update_of_ne here, Function.update_of_ne here, Function.update_of_ne here]
    have same : ∀ rest scene, j ∈ (crowd.after i rest scene moved).renamed ↔ j ∈ crowd.renamed :=
      fun _ _ => Crowd.mem_renamed_after.trans (by simp [here])
    exact Member.of_iff { other with agree } (same _ _)

/-- **One step of the crowd**: one of the members performs an effect, and the others do not see it
but at the destination. -/
theorem coherent_step (distinct : Distinct surroundings job tree file destination)
    (brings : Brings surroundings downloader job watch tree file destination data)
    (coherent : Coherent surroundings downloader job watch tree file destination data crowd own)
    (i : ι) :
    ∃ own', Coherent surroundings downloader job watch tree file destination data
      (crowd.step surroundings i) own' := by
  have member := coherent.member i
  cases left : crowd.rest i with
  | done outcome =>
    refine ⟨own, ?_⟩
    rwa [Crowd.step, left]
  | ask effect next =>
    rw [left] at member
    obtain ⟨reply, later, after, ownAfter, moved, performs, ahead, once⟩ :=
      member.performs (distinct.beside i) (distinct.absent i)
    rw [performs.step_eq left]
    refine ⟨Function.update own i ownAfter, coherent.member_after distinct performs.change ahead,
      coherent.shown_after distinct brings performs ahead, ?_, fun place differs => ?_⟩
    · cases moved with
      | false => exact coherent.once
      | true =>
        have new : i ∉ crowd.renamed := fun old => by cases once old
        refine List.nodup_append.mpr ⟨coherent.once, List.nodup_singleton i, ?_⟩
        intro other inside _ here same
        exact new (List.mem_singleton.mp here ▸ same ▸ inside)
    · by_cases stays : after.get? place = crowd.tree.get? place
      · exact coherent.framed place (stays ▸ differs)
      · by_cases target : tree.locate destination = .ok (.named place)
        · exact .inl target
        · by_cases mine : tree.locate (file i) = .ok (.named place)
          · exact .inr ⟨i, mine⟩
          · exact absurd (performs.change.get?_of_apart mine target) stays

end Steps

/-- **Every run of the crowd**: at every moment all members are where they would be on their own. -/
theorem coherent_run (distinct : Distinct surroundings job tree file destination)
    (brings : Brings surroundings downloader job watch tree file destination data)
    (schedule : List ι)
    (coherent : Coherent surroundings downloader job watch tree file destination data crowd own) :
    ∃ own', Coherent surroundings downloader job watch tree file destination data
      (crowd.run surroundings schedule) own' := by
  induction schedule generalizing crowd own with
  | nil => exact ⟨own, coherent⟩
  | cons i rest ih =>
    obtain ⟨_, next⟩ := coherent_step distinct brings coherent i
    exact ih next

/-- What holds of downloads to one destination at a moment: the destination is as it was, or the
complete file of the one that renamed last; those that have succeeded have renamed their complete
file, and the failed ones have not; and those that have ended leave no new file, unless a removal is
refused. Nothing else differs. -/
structure Consistent (surroundings : ι → Surroundings) (downloader : ι → Downloader)
    (job : ι → Download) (watch : ι → Watch) (tree : FileTree) (file : ι → Path)
    (destination : Path) (data : ι → Bytes) (crowd : Crowd ι) : Prop where
  shown : crowd.tree.status destination
    = match crowd.renamed.getLast? with
      | none => tree.status destination
      | some i => .ok (completeFile tree.privileged (job i) (data i))
  complete : ∀ i ∈ crowd.renamed, Complete (surroundings i) (downloader i) (job i) (watch i) tree
    (file i) destination (data i)
  once : crowd.renamed.Nodup
  succeeded : ∀ i result, crowd.rest i = .done (.ok result) →
    result = destination ∧ i ∈ crowd.renamed
  failed : ∀ i failure, crowd.rest i = .done (.error failure) → i ∉ crowd.renamed
  cleared : ∀ i outcome, crowd.rest i = .done outcome → (surroundings i).refusals.remove = none →
    ∀ entry, crowd.tree.status (file i) ≠ .ok entry
  framed : ∀ place, crowd.tree.get? place ≠ tree.get? place →
    tree.locate destination = .ok (.named place) ∨ ∃ i, tree.locate (file i) = .ok (.named place)

theorem Coherent.consistent
    (coherent : Coherent surroundings downloader job watch tree file destination data crowd own)
    (distinct : Distinct surroundings job tree file destination)
    (brings : Brings surroundings downloader job watch tree file destination data) :
    Consistent surroundings downloader job watch tree file destination data crowd where
  shown := coherent.shown
  complete i renamed := by
    obtain ⟨_, ended, _⟩ := (coherent.member i).succeeds renamed
    exact (brings i _ _ ended).1
  once := coherent.once
  succeeded i result ended := by
    have member := coherent.member i
    rw [ended] at member
    by_cases renamed : i ∈ crowd.renamed
    · cases member.ending renamed with
      | done _ same => exact ⟨Except.ok.inj same, renamed⟩
    · cases member.going renamed with
      | done _ fails => cases fails
  failed i failure ended renamed := by
    have member := coherent.member i
    rw [ended] at member
    cases member.ending renamed with
    | done _ same => cases same
  cleared i outcome ended free := coherent.cleared distinct brings ended free
  framed := coherent.framed

/-- **Downloads to one destination do not disturb each other**: for any number of them, any order of
their effects and everything that may go wrong for each of them, at every moment the destination is
as it was, or the complete file of the one that renamed last. -/
theorem concurrent_downloads_consistent {text : Text.LooseText}
    (isToken : ∀ i, IsToken (surroundings i).name)
    (apart : ∀ i j, i ≠ j → (surroundings i).name ≠ (surroundings j).name)
    (destined : ∀ i, (job i).destination = .named text) (named : (Path.ofText text).name ≠ "")
    (unused : ∀ i entry,
      tree.status ((Path.ofText text).fresh (surroundings i).name) ≠ .ok entry) :
    ∃ data : ι → Bytes, ∀ schedule, Consistent surroundings downloader job watch tree
      (fun i => (Path.ofText text).fresh (surroundings i).name) (Path.ofText text) data
      (.run surroundings
        (.start tree fun i => (download (downloader i) (job i) (watch i)).outcome) schedule) := by
  have distinct := distinct_of_tokens isToken apart destined named unused
  obtain ⟨data, brings⟩ := exists_brings distinct downloader watch
  refine ⟨data, fun schedule => ?_⟩
  obtain ⟨own, coherent⟩ := coherent_run distinct brings schedule (coherent_start distinct)
  exact coherent.consistent distinct brings

/-- Three downloads: one that nothing hinders, one whose second write is refused, and one that is to
stop at its first look. -/
def threeSurroundings : Fin 3 → Surroundings
  | 0 => .calm "0123456789" [.ok threeBytesResponse]
  | 1 =>
    { Surroundings.calm "fedcba9876" [.ok threeBytesResponse] with
      refusals := { Refusals.none with
        write := fun number =>
          if number = 1 then some (.system (.numbered 28 "No space left on device" []))
          else none } }
  | 2 => { Surroundings.calm "00000fffff" [.ok threeBytesResponse] with stop := fun _ => true }

/-- Three downloads of three bytes that replace an older file. -/
theorem concurrent_downloads_consistent_three_bytes :
    (∀ i, IsToken (threeSurroundings i).name)
      ∧ (∀ i j, i ≠ j → (threeSurroundings i).name ≠ (threeSurroundings j).name)
      ∧ threeBytes.destination = .named "asset.bin" ∧ (Path.ofText "asset.bin").name ≠ ""
      ∧ (∀ i, FileTree.status ⟨[(["asset.bin"], .file [9] 0o600)], false⟩
          ((Path.ofText "asset.bin").fresh (threeSurroundings i).name) = .error .notFound)
      ∧ ∃ data : Fin 3 → Bytes, ∀ schedule, Consistent threeSurroundings (fun _ => .standard)
        (fun _ => threeBytes) (fun _ => .counts) ⟨[(["asset.bin"], .file [9] 0o600)], false⟩
        (fun i => (Path.ofText "asset.bin").fresh (threeSurroundings i).name)
        (Path.ofText "asset.bin") data
        (.run threeSurroundings
          (.start ⟨[(["asset.bin"], .file [9] 0o600)], false⟩ fun _ =>
            (download .standard threeBytes .counts).outcome) schedule) := by
  have tokens : ∀ i, IsToken (threeSurroundings i).name := by decide
  have apart : ∀ i j, i ≠ j → (threeSurroundings i).name ≠ (threeSurroundings j).name := by decide
  have named : (Path.ofText "asset.bin").name ≠ "" := by decide +kernel
  have absent : ∀ i, FileTree.status ⟨[(["asset.bin"], .file [9] 0o600)], false⟩
      ((Path.ofText "asset.bin").fresh (threeSurroundings i).name) = .error .notFound := by
    decide +kernel
  refine ⟨tokens, apart, rfl, named, absent, ?_⟩
  exact concurrent_downloads_consistent tokens apart (fun _ => rfl) named fun i entry => by
    rw [absent i]
    nofun

end Crowds

end Download

end AssetFetch
