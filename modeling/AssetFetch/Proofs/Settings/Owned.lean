/-
**A settings file that is a store's own.**

* `Effect.KeepsRights`, `legible_run`: writing over files, adding to them and removing them leaves
  every file that can be read if it can be written such a file;
* `exists_grown_of_appendAt`: what directories bring to a tree they bring to it whether or not bytes
  have been added to a file before;
* `SettingsStore.Owned`: no file comes to light under the path of the settings where directories are
  made, no file is in the way of the draft, and the log is elsewhere;
* `Owned.of_parent`, `Owned.of_downward`: so it is in a directory that is there, and under a path
  without steps upwards;
* `Owned.of_grown`, `Owned.of_removed`, `Owned.log`: making directories, removing the file and lines
  for the log keep that;
* `Owned.of_failed`, `Owned.of_replaced`: **so does every save**, whatever it comes to.
-/

import AssetFetch.Proofs.Settings.Replacing

namespace AssetFetch

/-! ### Rights -/

namespace FileTree

variable {tree other after : FileTree} {location place : Location} {path : Path}

/-- A file in the place of another. -/
theorem legible_put {entry : Entry} (free : tree.get? location ≠ some .directory)
    (put : Legible (some entry)) (legible : Legible (tree.get? place)) :
    Legible ((tree.put location entry).get? place) := by
  by_cases here : place = location
  · subst here
    rwa [get?_put_self (not_given_of_ne_directory free)]
  · rwa [get?_put_of_ne here]

theorem legible_erase (legible : Legible (tree.get? place)) :
    Legible ((tree.erase location).get? place) := by
  by_cases here : place = location
  · subst here
    by_cases given : place.isGiven = true
    · rw [get?_of_given given]
      exact legible_directory
    · rw [get?_erase_self (Bool.eq_false_iff.mpr given)]
      exact legible_none
  · rwa [get?_erase_of_ne here]

theorem legible_appendAt (bytes : Bytes) (legible : Legible (tree.get? place)) :
    Legible ((tree.appendAt location bytes).get? place) := by
  unfold appendAt
  split
  · rename_i content mode found
    split
    · exact legible
    · by_cases here : place = location
      · subst here
        refine legible_put (by simp [found]) ?_ legible
        rw [found] at legible
        exact legible_modeAfterWriting tree.privileged legible
      · rwa [get?_put_of_ne here]
  · exact legible

theorem legible_overwrite (opened : tree.openForWriting path false = .ok (location, other))
    (legible : Legible (tree.get? place)) : Legible (other.get? place) := by
  obtain ⟨accepts, mode, readable, rfl⟩ := exists_of_overwritten opened
  by_cases here : place = location
  · subst here
    exact legible_put accepts.2 (readable legible).1 legible
  · rwa [get?_put_of_ne here]

end FileTree

/-- Writing over files, adding to them and removing them, and the log. -/
def Effect.KeepsRights : Effect → Prop
  | .file (.overwrite _) => True
  | .file (.append _ _) => True
  | .file (.remove _) => True
  | .log _ => True
  | _ => False

namespace World

open FileTree

/-- A file that can be read if it can be written stays one. -/
def KeepsLegible (before after : World) : Prop :=
  ∀ place, Legible (before.tree.get? place) → Legible (after.tree.get? place)

theorem keepsLegible_log (world : World) (record : LogLine) :
    world.KeepsLegible (world.log record) := by
  intro place legible
  obtain ⟨_, same | ⟨location, bytes, _, same⟩⟩ := world.log_leaves record
  · rwa [same]
  · rw [same]
    exact legible_appendAt bytes legible

theorem keepsLegible_answer (world : World) {effect : Effect} (keeps : effect.KeepsRights) :
    world.KeepsLegible (world.answer effect).2 := by
  cases effect with
  | file action =>
    cases action with
    | overwrite path =>
      intro place legible
      simp only [answer, onFile]
      cases opened : world.tree.openForWriting path false with
      | error fault => exact legible
      | ok reached => exact legible_overwrite opened legible
    | append path bytes =>
      intro place legible
      simp only [answer, onFile, FileTree.append]
      cases world.tree.locate path with
      | error fault => exact legible
      | ok found =>
        cases found with
        | fixed location => exact legible
        | named location => exact legible_appendAt bytes legible
    | remove path =>
      intro place legible
      simp only [answer, onFile]
      cases world.faults.remove with
      | some failure => exact legible
      | none =>
        cases removed : world.tree.remove path with
        | error fault => exact legible
        | ok tree =>
          obtain ⟨location, _, _, _, _, rfl⟩ := remove_eq_ok_iff.mp removed
          exact legible_erase legible
    | _ => exact keeps.elim
  | log record => exact keepsLegible_log world record
  | _ => exact keeps.elim

/-- **A program that does nothing else** keeps such files. -/
theorem legible_run {α : Type} {program : Program α} (keeps : program.AllAsked Effect.KeepsRights)
    (world : World) : world.KeepsLegible (world.run program).2 :=
  related_run KeepsLegible (fun _ _ legible => legible)
    (fun left right place legible => right place (left place legible))
    (fun world _ => keepsLegible_answer world) keeps world

end World

namespace SettingsStore

open FileTree World

theorem keepsRights_writeDraft (depths : Json.Depths) (draft : Path) (settings : Settings) :
    (writeDraft depths draft settings).Only Effect.KeepsRights :=
  .bind (.attempt (.perform trivial)) fun _ => .bind (.ofExcept _) fun _ =>
    .bind (.attempt (.perform trivial)) fun _ => .ite (.throw _) (.pure _)

theorem keepsRights_discarding (draft : Path) (failure : Failure) :
    (discarding draft failure).Only Effect.KeepsRights := by
  have removes : (Files.removeIfPresent draft).Only Effect.KeepsRights :=
    .orElse (.attempt (.perform trivial)) fun _ => .ite (.pure _) (.throw _)
  rw [discarding_eq]
  exact .ite (.bind removes fun _ => .throw _) (.throw _)

end SettingsStore

/-! ### Bytes that are added, and directories that are made -/

namespace FileTree

variable {tree after : FileTree} {location : Location} {path : Path}

/-- **What directories bring to a tree** they bring to it whether or not bytes have been added to a
file before. -/
theorem exists_grown_of_appendAt {bytes : Bytes}
    (grown : (tree.appendAt location bytes).Grown after) :
    ∃ base, tree.Grown base ∧ base.SameShape after
      ∧ (∀ place, place ≠ location → after.get? place = base.get? place)
      ∧ (Legible (base.get? location) → Legible (after.get? location)) := by
  unfold appendAt at grown
  split at grown
  · rename_i content mode found
    split at grown
    · exact ⟨after, grown, fun _ => rfl, fun _ _ => rfl, id⟩
    · have free : location.isGiven = false := not_given_of_ne_directory (by rw [found]; nofun)
      have there : after.get? location
          = some (.file (content ++ bytes) (modeAfterWriting tree.privileged mode)) := by
        have here := grown location
        rw [get?_put_self free] at here
        rcases here with same | ⟨absent, _⟩
        · exact same
        · cases absent
      have base : (after.put location (.file content mode)).get? location
          = some (.file content mode) := get?_put_self free
      refine ⟨after.put location (.file content mode), fun place => ?_, fun place => ?_,
        fun place apart => (get?_put_of_ne apart).symm, fun legible => ?_⟩
      · by_cases here : place = location
        · subst here
          exact .inl (base.trans found.symm)
        · have elsewhere := grown place
          rwa [get?_put_of_ne here] at elsewhere ⊢
      · by_cases here : place = location
        · subst here
          rw [base, there]
          rfl
        · rw [get?_put_of_ne here]
      · rw [there]
        rw [base] at legible
        exact legible_modeAfterWriting tree.privileged legible
  · exact ⟨after, grown, fun _ => rfl, fun _ _ => rfl, id⟩

theorem saysSame_of_sameShape {other : FileTree} (shape : tree.SameShape other)
    (same : ∀ place, tree.placeOf path = .ok (.named place) →
      other.get? place = tree.get? place) : SaysSame path tree other := by
  have placeOf := placeOf_of_sameShape shape path
  cases placed : tree.placeOf path with
  | error fault =>
    rw [placed] at placeOf
    exact .inl (by simp only [status, locate, placed, placeOf])
  | ok place =>
    refine saysSame_of_placed placed (placeOf.trans placed) ?_
    rintro here rfl
    exact .inl (same here placed)

/-- Bytes that are added elsewhere bring no file to light later. -/
theorem Steady.appendAt (steady : Steady path tree) (bytes : Bytes)
    (free : location.getLast? ≠ some path.fileName) :
    Steady path (tree.appendAt location bytes) := by
  have apart : ∀ {tree : FileTree} {place}, tree.placeOf path = .ok (.named place) →
      place ≠ location := by
    rintro tree place placed rfl
    exact free (getLast?_of_placed placed)
  intro after grown
  obtain ⟨base, fromTree, shape, same, _⟩ := exists_grown_of_appendAt grown
  have first : SaysSame path tree (tree.appendAt location bytes) :=
    saysSame_appendAt bytes fun place placed => apart placed
  have last : SaysSame path base after :=
    saysSame_of_sameShape shape fun place placed => same place (apart placed)
  exact first.symm.trans ((steady base fromTree).trans last)

end FileTree

namespace SettingsStore

open FileTree World

variable {depths : Json.Depths} {path draft : Path} {settings : Settings} {world later : World}
  {failure : Failure} {tree : FileTree}

/-! ### The draft -/

/-- Whatever directories are made, no file that can be written but not read is where the draft
goes. -/
def DraftLegible (path : Path) (tree : FileTree) : Prop :=
  ∀ after, tree.Grown after → ∀ draft, draftPath path = .ok draft →
    ∀ place, after.locate draft = .ok (.named place) → Legible (after.get? place)

theorem DraftLegible.of_grown {other : FileTree} (legible : DraftLegible path tree)
    (grown : tree.Grown other) : DraftLegible path other :=
  fun after more => legible after (grown.trans more)

/-- In a directory that is there, the draft's place is known. -/
theorem draftLegible_of_parent (there : tree.status path.parent = .ok .directory)
    (legible : ∀ draft, draftPath path = .ok draft → ∀ place,
      tree.locate draft = .ok (.named place) → Legible (tree.get? place)) :
    DraftLegible path tree := by
  intro after grown draft drafted place located
  obtain ⟨placed, short⟩ := locate_eq_named_iff.mp located
  have parent : tree.status draft.parent = .ok .directory :=
    parent_of_draftPath drafted ▸ there
  rcases placeOf_of_parent parent with ⟨fault, refused⟩ | ⟨found, before⟩
  · simp only [placeOf, refused] at placed
    cases placed
  · have same : Except.ok found = .ok (.named place) :=
      (placeOf_of_directories grown.directories before).symm.trans placed
    cases same
    rcases grown place with same | ⟨_, made⟩
    · rw [same]
      exact legible draft drafted place (locate_eq_named_iff.mpr ⟨before, short⟩)
    · rw [made]
      exact legible_directory

/-- Beside a file that has a place, the draft's place is known as well. -/
theorem draftLegible_of_placed {location : Location}
    (placed : tree.placeOf path = .ok (.named location))
    (legible : ∀ draft, draftPath path = .ok draft → ∀ place,
      tree.locate draft = .ok (.named place) → Legible (tree.get? place)) :
    DraftLegible path tree := by
  intro after grown draft drafted place located
  obtain ⟨here, short⟩ := locate_eq_named_iff.mp located
  have same := placeOf_of_sibling (parent_of_draftPath drafted).symm placed grown.directories
  rcases grown place with kept | ⟨_, made⟩
  · rw [kept]
    exact legible draft drafted place (locate_eq_named_iff.mpr ⟨same.symm.trans here, short⟩)
  · rw [made]
    exact legible_directory

theorem DraftLegible.appendAt {location : Location} (legible : DraftLegible path tree)
    (bytes : Bytes) : DraftLegible path (tree.appendAt location bytes) := by
  intro after grown draft drafted place located
  obtain ⟨base, fromTree, shape, same, kept⟩ := exists_grown_of_appendAt grown
  rw [locate_of_sameShape shape] at located
  have before := legible base fromTree draft drafted place located
  by_cases here : place = location
  · exact here ▸ kept (here ▸ before)
  · rwa [same place here]

/-! ### Owning a settings file -/

/-- **A settings file that is a store's own**: no file comes to light under its path where
directories are made, no file is in the way of the draft, and the log is no file of its name. -/
structure Owned (path : Path) (world : World) : Prop where
  steady : Steady path world.tree
  legible : DraftLegible path world.tree
  logged : ∀ place ∈ world.logFile, place.getLast? ≠ some path.fileName

namespace Owned

theorem of_grown (owned : Owned path world) (grown : world.tree.Grown tree) :
    Owned path (world.withTree tree) :=
  ⟨owned.steady.of_grown grown, owned.legible.of_grown grown, owned.logged⟩

/-- In a directory that is there. -/
theorem of_parent (there : world.tree.status path.parent = .ok .directory)
    (legible : ∀ draft, draftPath path = .ok draft → ∀ place,
      world.tree.locate draft = .ok (.named place) → Legible (world.tree.get? place))
    (logged : ∀ place ∈ world.logFile, place.getLast? ≠ some path.fileName) : Owned path world :=
  ⟨steady_of_parent there, draftLegible_of_parent there legible, logged⟩

/-- **Under a path that leads downwards**, whether or not its directory is there. -/
theorem of_downward (rooted : world.tree.Rooted)
    (down : ∀ name ∈ path.names, IsDownward name.fileName)
    (draftDown : ∀ draft, draftPath path = .ok draft → IsDownward draft.fileName)
    (legible : ∀ draft, draftPath path = .ok draft → ∀ place,
      world.tree.locate draft = .ok (.named place) → Legible (world.tree.get? place))
    (logged : ∀ place ∈ world.logFile, place.getLast? ≠ some path.fileName) : Owned path world := by
  refine ⟨steady_of_downward rooted down, fun after grown draft drafted place located => ?_, logged⟩
  have every : ∀ name ∈ draft.names, IsDownward name.fileName := by
    obtain ⟨_, rfl⟩ := draftPath_eq_ok_iff.mp drafted
    intro name member
    rcases Path.mem_sibling member with inside | rfl
    · exact down name inside
    · have final := draftDown _ drafted
      rwa [Path.fileName, Path.finalName_sibling] at final
  obtain ⟨placed, short⟩ := locate_eq_named_iff.mp located
  -- the draft had its place before, or nothing was there
  rcases placeOf_of_grown rooted every grown with kept | ⟨_, lost | ⟨other, found, _, missing⟩⟩
  · have before := legible draft drafted place
      (locate_eq_named_iff.mpr ⟨kept.symm.trans placed, short⟩)
    rcases grown place with equal | ⟨_, made⟩
    · rwa [equal]
    · rw [made]
      exact legible_directory
  · rw [lost] at placed
    cases placed
  · rw [found] at placed
    cases placed
    rcases grown place with equal | ⟨_, made⟩
    · rw [equal, missing]
      exact legible_none
    · rw [made]
      exact legible_directory

/-- **A file that has been removed is still a store's own.** -/
theorem of_removed {place : Location} {content : Bytes} {mode : Nat} (owned : Owned path world)
    (located : world.tree.locate path = .ok (.named place))
    (found : world.tree.get? place = some (.file content mode)) :
    Owned path (world.withTree (world.tree.erase place)) := by
  obtain ⟨placed, _⟩ := locate_eq_named_iff.mp located
  have kept := directories_erase found
  have still : (world.tree.erase place).placeOf path = .ok (.named place) :=
    placeOf_of_directories kept placed
  refine ⟨fun after grown => ?_, draftLegible_of_placed still ?_, owned.logged⟩
  · refine saysSame_of_placed still (placeOf_of_directories grown.directories still) ?_
    exact fun location _ => grown location
  · intro draft drafted other here
    obtain ⟨beside, short⟩ := locate_eq_named_iff.mp here
    have same := placeOf_of_sibling (parent_of_draftPath drafted).symm placed kept
    exact legible_erase (owned.legible _ (.refl _) draft drafted other
      (locate_eq_named_iff.mpr ⟨same.symm.trans beside, short⟩))

/-- **Lines for the log leave a store its file.** -/
theorem log (owned : Owned path world) (record : LogLine) : Owned path (world.log record) := by
  obtain ⟨logFile, same | ⟨location, bytes, opened, same⟩⟩ := world.log_leaves record
  · exact ⟨same ▸ owned.steady, same ▸ owned.legible, logFile ▸ owned.logged⟩
  · refine ⟨?_, ?_, logFile ▸ owned.logged⟩
    · rw [same]
      exact owned.steady.appendAt bytes (owned.logged location opened)
    · rw [same]
      exact owned.legible.appendAt bytes

/-- **A save that fails leaves a store its file.** -/
theorem of_failed (owned : Owned path world)
    (failed : world.attempt (replaceFile depths path settings) = (.error failure, later)) :
    Owned path later := by
  obtain ⟨tree, grown, rest⟩ := exists_of_replaceFile_error failed
  rcases rest with rfl | ⟨parent, draft, drafted, moved⟩
  · exact owned.of_grown grown
  · have seated : Seated path (world.withTree tree) := ⟨parent, owned.logged⟩
    have leaves := seated.moveDraft_of_error drafted moved
    have before := seated.of_leaves leaves
    obtain ⟨cause, discarded⟩ := exists_discarded moved
    have written := legible_run (keepsRights_writeDraft depths draft settings) (world.withTree tree)
    have removed := legible_run (keepsRights_discarding draft cause)
      ((world.withTree tree).attempt (writeDraft depths draft settings)).2
    have last : ((world.withTree tree).attempt (writeDraft depths draft settings)).2.run
        (discarding draft cause).outcome = (.error failure, later) := discarded
    rw [last] at removed
    refine .of_parent before.parent (fun other named place located => ?_) before.logged
    obtain rfl : draft = other := Except.ok.inj (drafted.symm.trans named)
    -- the draft has its place since its directory was made
    have parentOf : tree.status draft.parent = .ok .directory :=
      parent_of_draftPath drafted ▸ parent
    obtain ⟨placed, short⟩ := locate_eq_named_iff.mp located
    rcases placeOf_of_parent parentOf with ⟨fault, refused⟩ | ⟨found, first⟩
    · simp only [placeOf, refused] at placed
      cases placed
    · have same : Except.ok found = .ok (.named place) :=
        (placeOf_of_directories leaves.directories first).symm.trans placed
      cases same
      refine removed place (written place ?_)
      exact owned.legible tree grown draft drafted place (locate_eq_named_iff.mpr ⟨first, short⟩)

/-- **A save that succeeds leaves a store its file**, which then says what was saved. -/
theorem of_replaced (owned : Owned path world)
    (ok : world.attempt (replaceFile depths path settings) = (.ok (), later)) :
    Owned path later := by
  obtain ⟨tree, draft, place, location, mode, grown, moves, _, _, rfl⟩ :=
    exists_moves owned.logged ok
  have swapped : Owned path (world.withTree ((tree.erase place).put location
      (.file (savedBytes settings) mode))) := by
    refine .of_parent (status_of_directories (moves.directories _) moves.parent)
      (fun other drafted found located => ?_) owned.logged
    obtain rfl : draft = other := Except.ok.inj (moves.drafted.symm.trans drafted)
    have same : Except.ok (Place.named found) = .ok (.named place) :=
      located.symm.trans (locate_of_directories (moves.directories _) moves.draft)
    cases same
    have gone : ((tree.erase place).put location (.file (savedBytes settings) mode)).get? place
        = none := by
      rw [get?_put_of_ne moves.apart.symm]
      exact get?_erase_self (not_given_of_ne_directory moves.spare)
    rw [withTree_tree, gone]
    exact legible_none
  rw [run_logLine]
  exact swapped.log _

end Owned

end SettingsStore

end AssetFetch
