/-
**What the parts of a download do to the files.**

* `only_refused`, `only_writePieces` and their kin: which effects each part asks for;
* `keeps_fetch`: the request and the writing leave nothing but a draft, whatever happens;
* `attempt_settle_eq_ok_iff`, `keeps_settle_of_error`: the rename at the end;
* `tree_clear`, `keeps_clear`: the removal after a failure.
-/

import AssetFetch.Proofs.Draft
import AssetFetch.Download

namespace AssetFetch

/-! ### What each part asks for -/

section Asked

theorem only_isCancelled : isCancelled.Only Effect.IsMute :=
  .ofProgram (.perform trivial)

namespace Download

variable (job : Download) (watch : Watch) (file : Path) (total : Nat)

theorem only_notify (read : Nat) (tracker : PercentTracker) :
    (notify watch read total tracker).Only Effect.IsMute := by
  cases watch with
  | nobody => exact .pure _
  | counts => exact .bind (.attempt (.perform trivial)) fun _ => .pure _
  | percents =>
    unfold notify
    cases tracker.step read total with
    | mk report next =>
      cases report with
      | none => exact .pure _
      | some report => exact .bind (.ofProgram (.perform trivial)) fun _ => .pure _

/-- Unpacks a piece with bytes, writes it and tells of it. -/
def writePiece (standing : Standing) (piece : Bytes) : Action Standing := do
  let unpacked ← .ofExcept (unpack standing.stream piece)
  Files.append file unpacked.1
  let tracker ← notify watch (standing.read + piece.length) total standing.tracker
  return ⟨standing.read + piece.length, unpacked.2, tracker⟩

/-- One piece after the other. -/
theorem writePieces_cons (piece : Bytes) (rest : List (Except Failure Bytes))
    (standing : Standing) :
    writePieces job watch file total (.ok piece :: rest) standing = (do
      if ← isCancelled then
        log .info logger ("Download of " ++ job.url.shown ++ " cancelled")
        throw (.ofFetch (.cancelled job.url job.destination.text))
      else if piece.isEmpty then writePieces job watch file total rest standing
      else
        let next ← writePiece watch file total standing piece
        writePieces job watch file total rest next) := by
  simp only [writePiece, bind_assoc, pure_bind]
  rfl

theorem only_writePiece (standing : Standing) (piece : Bytes) :
    (writePiece watch file total standing piece).Only (Effect.Drafts file) :=
  .bind (.ofExcept _) fun _ => .bind (.attempt (.perform rfl)) fun _ =>
    .bind ((only_notify ..).mono fun _ mute => mute.drafts file) fun _ => .pure _

theorem only_writePieces (arrivals : List (Except Failure Bytes)) (standing : Standing) :
    (writePieces job watch file total arrivals standing).Only (Effect.Drafts file) := by
  have mute : ∀ effect : Effect, effect.IsMute → effect.Drafts file := fun _ mute =>
    mute.drafts file
  induction arrivals generalizing standing with
  | nil => exact .pure _
  | cons arrival rest ih =>
    cases arrival with
    | error failure => exact .throw _
    | ok piece =>
      rw [writePieces_cons]
      refine .bind (only_isCancelled.mono mute) fun stop => ?_
      refine .ite (.bind ((only_log _ _ _).mono mute) fun _ => .throw _) (.ite (ih standing) ?_)
      exact .bind (only_writePiece watch file total standing piece) ih

/-- Sets the permission bits that are wished, if any are. -/
def setWished : Action Unit :=
  match job.mode.value? with
  | some mode => Files.setMode file mode
  | none => return ()

/-- Writes what is held back, and waits for the disk. -/
def persist : Action Unit := do
  Files.flush file
  Files.sync file

/-- Makes sure that nothing is missing, tells so of an empty body, and waits for the disk. -/
def conclude (standing : Standing) : Action Unit :=
  if standing.read < total then throw (job.incomplete standing.read total)
  else if total == 0 then do
    discard (notify watch 0 0 standing.tracker)
    persist file
  else persist file

theorem writeBody_eq (arrivals : List (Except Failure Bytes)) :
    writeBody job watch file total arrivals = (do
      job.setWished file
      let standing ← writePieces job watch file total arrivals (.start job)
      conclude job watch file total standing) := by
  unfold writeBody setWished conclude persist
  cases job.mode.value? with
  | none => rfl
  | some mode => rfl

theorem only_setWished : (job.setWished file).Only (Effect.Drafts file) := by
  unfold setWished
  cases job.mode.value? with
  | none => exact .pure _
  | some mode => exact .attempt (.perform rfl)

theorem only_persist : (persist file).Only (Effect.Drafts file) :=
  .bind (.attempt (.perform rfl)) fun _ => .attempt (.perform rfl)

theorem only_conclude (standing : Standing) :
    (conclude job watch file total standing).Only (Effect.Drafts file) := by
  have told := (only_notify watch 0 0 standing.tracker).mono fun _ mute => mute.drafts file
  refine .ite (.throw _) (.ite ?_ (only_persist file))
  exact .bind (.bind told fun _ => .pure _) fun _ => only_persist file

theorem only_writeBody (arrivals : List (Except Failure Bytes)) :
    (writeBody job watch file total arrivals).Only (Effect.Drafts file) := by
  rw [writeBody_eq]
  exact .bind (only_setWished job file) fun _ =>
    .bind (only_writePieces job watch file total arrivals _) fun _ =>
      only_conclude job watch file total _

/-- What is written into a file that has been created, and its end. -/
theorem only_writeBody_whatever (arrivals : List (Except Failure Bytes)) :
    ((writeBody job watch file total arrivals).whatever (Files.close file)).Only
      (Effect.Drafts file) :=
  .whatever (only_writeBody job watch file total arrivals) (.attempt (.perform rfl))

theorem only_explain (failure : Failure) : (explain job file failure).Only Effect.IsMute := by
  unfold explain
  split
  · exact .bind (only_log _ _ _) fun _ => .throw _
  · exact .bind (only_log _ _ _) fun _ => .throw _
  · exact .bind (only_log _ _ _) fun _ => .throw _
  · exact .throw _

theorem only_refused (response : Response) : (refused job response).Only Effect.IsMute :=
  .bind (.ofExcept _) fun _ => .bind (only_log _ _ _) fun _ => .bind (only_log _ _ _) fun _ =>
    .throw _

theorem fills_of_mute {α : Type} {action : Action α} (mute : action.Only Effect.IsMute) :
    action.Only (Effect.Fills file) :=
  mute.mono fun _ mute => mute.fills file

theorem only_fill (arrivals : List (Except Failure Bytes)) :
    (fill job watch file total arrivals).Only (Effect.Fills file) := by
  refine .orElse ?_ fun failure => fills_of_mute file (only_explain job file failure)
  refine .bind (.attempt (.perform rfl)) fun _ => ?_
  exact (only_writeBody_whatever job watch file total arrivals).mono fun _ => Effect.Drafts.fills

theorem only_accepted (downloader : Downloader) (response : Response) :
    (accepted job downloader watch file response).Only (Effect.Fills file) :=
  .bind (.ofExcept _) fun _ => .bind (fills_of_mute file (only_log ..)) fun _ => only_fill ..

/-- What is done about what the request meets. -/
def receive (downloader : Downloader) : Except Failure Response → Action Unit
  | .error failure =>
    if failure.isNetwork then do
      log .error logger
        ("Error while downloading file from " ++ job.url.shown ++ ": " ++ failure.message)
      throw (job.failedBy failure)
    else throw failure
  | .ok response =>
    (if response.isRefusal then refused job response
      else accepted job downloader watch file response).whatever
      (Action.ofProgram (perform .close))

theorem fetch_eq (downloader : Downloader) :
    fetch job downloader watch file = (do
      let result ← Action.ofProgram (send (job.request downloader)).outcome
      receive job watch file downloader result) := by
  refine bind_congr fun result => ?_
  cases result <;> rfl

/-- **After its request a download sends nothing**, and it touches no file but the new one. -/
theorem only_receive (downloader : Downloader) (result : Except Failure Response) :
    (receive job watch file downloader result).Only (Effect.Fills file) := by
  cases result with
  | error failure =>
    exact .ite (.bind (fills_of_mute file (only_log ..)) fun _ => .throw _) (.throw _)
  | ok response =>
    refine .whatever ?_ (.ofProgram (.perform trivial))
    exact .ite (fills_of_mute file (only_refused job response)) (only_accepted ..)

/-- **The request and the writing touch no file but the new one.** -/
theorem only_fetch (downloader : Downloader) :
    (fetch job downloader watch file).Only (Effect.Owns file) := by
  rw [fetch_eq]
  exact .bind (.ofProgram (.perform trivial)) fun result =>
    (only_receive job watch file downloader result).mono fun _ => Effect.Fills.owns

theorem only_clear : (clear file).Only (Effect.Fills file) :=
  .orElse (.orElse (.attempt (.perform rfl)) fun _ => .ite (.pure _) (.throw _)) fun _ =>
    .ite (fills_of_mute file (only_log ..)) (.throw _)

end Download

end Asked

/-! ### What each part keeps -/

section Kept

variable {surroundings : Surroundings} {scene later : Scene} {tree : FileTree} {file : Path}

/-- The outcome of a single operation on files, and the scene after it. -/
theorem attempt_file (action : FileAction) :
    surroundings.run (perform (.file action)) scene
      = ((surroundings.onFile scene action).1,
        { scene with
          tree := (surroundings.onFile scene action).2
          writes := if Surroundings.isWrite action then scene.writes + 1 else scene.writes }) :=
  rfl

theorem attempt_file_eq_ok_iff (action : FileAction) (value : action.Result) :
    surroundings.run (perform (.file action)) scene = (.ok value, later)
      ↔ ∃ after, surroundings.onFile scene action = (.ok value, after)
        ∧ later = { scene with
            tree := after
            writes := if Surroundings.isWrite action then scene.writes + 1 else scene.writes } := by
  rw [attempt_file]
  constructor
  · intro done
    obtain ⟨replied, same⟩ := Prod.mk.inj done
    exact ⟨_, Prod.ext replied rfl, same.symm⟩
  · rintro ⟨after, replied, rfl⟩
    rw [replied]
    rfl

/-- What makes sure of what has been written leaves the scene as it is. -/
theorem attempt_settling (action : FileAction) (settles : action.Settles) :
    surroundings.run (perform (.file action)) scene
      = ((surroundings.onFile scene action).1, scene) := by
  have uncounted : Surroundings.isWrite action = false := by
    cases action with
    | append _ _ => exact settles.elim
    | _ => rfl
  rw [attempt_file, (onFile_of_settles settles).1, uncounted]
  rfl

/-- It succeeds unless it is refused. -/
theorem attempt_settling_eq_ok_iff (action : FileAction) (settles : action.Settles)
    (value : action.Result) :
    surroundings.run (perform (.file action)) scene = (.ok value, later)
      ↔ surroundings.refusals.of scene.writes action = none ∧ later = scene := by
  rw [attempt_settling action settles]
  have refused : ∀ failure, (surroundings.onFile scene action).1 = .error failure
      ↔ surroundings.refusals.of scene.writes action = some failure := (onFile_of_settles settles).2
  constructor
  · intro done
    obtain ⟨replied, same⟩ := Prod.mk.inj done
    refine ⟨?_, same.symm⟩
    cases free : surroundings.refusals.of scene.writes action with
    | none => rfl
    | some failure =>
      rw [(refused failure).mpr free] at replied
      cases replied
  · rintro ⟨free, rfl⟩
    refine Prod.ext ?_ rfl
    show (surroundings.onFile later action).1 = .ok value
    cases replied : (surroundings.onFile later action).1 with
    | error failure =>
      rw [(refused failure).mp replied] at free
      cases free
    | ok other =>
      cases action with
      | flush _ | sync _ | close _ => rfl
      | _ => exact settles.elim

/-- What makes sure of what has been written fails exactly where it is refused. -/
theorem attempt_settling_eq_error_iff (action : FileAction) {failure : Failure}
    (settles : action.Settles) :
    surroundings.run (perform (.file action)) scene = (.error failure, later)
      ↔ surroundings.refusals.of scene.writes action = some failure ∧ later = scene := by
  rw [attempt_settling action settles, ← (onFile_of_settles settles).2]
  constructor
  · intro failed
    obtain ⟨replied, same⟩ := Prod.mk.inj failed
    exact ⟨replied, same.symm⟩
  · rintro ⟨replied, rfl⟩
    exact Prod.ext replied rfl

/-- **An action with a close behind it** ends with the close's failure, if that is refused. -/
theorem attempt_whatever_closing (action : Action Unit) :
    surroundings.attempt (action.whatever (Files.close file)) scene
      = (match surroundings.refusals.close with
          | some failure => .error failure
          | none => (surroundings.attempt action scene).1,
        (surroundings.attempt action scene).2) := by
  have closed : ∀ scene : Scene, surroundings.attempt (Files.close file) scene
      = ((match surroundings.refusals.close with
          | some failure => .error failure
          | none => .ok ()), scene) := by
    intro scene
    cases free : surroundings.refusals.close with
    | none => exact (attempt_settling_eq_ok_iff (.close file) trivial ()).mpr ⟨free, rfl⟩
    | some failure =>
      exact (attempt_settling_eq_error_iff (.close file) trivial).mpr ⟨free, rfl⟩
  rw [Surroundings.attempt_whatever]
  cases ran : surroundings.attempt action scene with
  | mk result after =>
    cases result with
    | ok _ =>
      simp only [Surroundings.attempt_bind, closed]
      cases surroundings.refusals.close <;> rfl
    | error failure =>
      simp only [Surroundings.attempt_bind, closed]
      cases surroundings.refusals.close <;> rfl

/-- Quiet parts keep what holds. -/
theorem keeps_of_quiet {α : Type} {action : Action α} {holds : FileTree → Prop}
    (quiet : action.Only Effect.IsQuiet) (here : holds scene.tree) :
    surroundings.Keeps holds action scene := by
  refine Surroundings.keeps_of_only quiet (fun before effect isQuiet held => ?_) here
  rw [tree_answer_of_quiet isQuiet]
  exact held

theorem tree_of_quiet {α : Type} {action : Action α} (quiet : action.Only Effect.IsQuiet) :
    (surroundings.attempt action scene).2.tree = scene.tree := by
  have kept : surroundings.Keeps (· = scene.tree) action scene := keeps_of_quiet quiet rfl
  exact kept.2

namespace Download

variable {job : Download} {downloader : Downloader} {watch : Watch} {total : Nat}

/-- A file that has been created is a draft. -/
theorem drafted_of_create {wish : Given Int}
    (created : surroundings.attempt (Files.create file wish) scene = (.ok (), later)) :
    scene.tree.Drafted file later.tree := by
  have reply := Prod.mk.inj created
  have answered : surroundings.onFile scene (.create file wish) = (.ok (), later.tree) :=
    Prod.ext reply.1 (congrArg Scene.tree reply.2)
  obtain ⟨_, wished, location, _, vacant, same⟩ := onFile_create_eq_ok_iff.mp answered
  exact ⟨location, _, _, vacant, same⟩

theorem keeps_create (wish : Given Int) :
    surroundings.Keeps (scene.tree.Draft file) (Files.create file wish) scene := by
  refine .perform (Or.inl rfl) ?_
  show scene.tree.Draft file (surroundings.onFile scene (.create file wish)).2
  rcases surroundings.onFile_done_or_failed scene (.create file wish) with
    ⟨_, after, done⟩ | ⟨_, failed⟩
  · obtain ⟨_, wished, location, _, vacant, rfl⟩ := onFile_create_eq_ok_iff.mp done
    rw [done]
    exact Or.inr ⟨location, _, _, vacant, rfl⟩
  · rw [failed]
    exact Or.inl rfl

/-- **Writing leaves nothing but a draft**, whatever happens. -/
theorem keeps_writeAll (arrivals : List (Except Failure Bytes)) :
    surroundings.Keeps (scene.tree.Draft file) (writeAll job watch file total arrivals) scene := by
  refine (keeps_create job.mode).bind fun _ after created _ => ?_
  have drafted := drafted_of_create created
  exact (Surroundings.keeps_of_only (only_writeBody_whatever job watch file total arrivals)
    (fun _ _ drafts here => drafted_answer drafts here) drafted).mono fun _ draft => Or.inr draft

theorem keeps_fill (arrivals : List (Except Failure Bytes)) :
    surroundings.Keeps (scene.tree.Draft file) (fill job watch file total arrivals) scene :=
  (keeps_writeAll arrivals).orElse fun failure _ _ draft =>
    keeps_of_quiet (only_explain job file failure).quiet draft

theorem keeps_accepted (response : Response) :
    surroundings.Keeps (scene.tree.Draft file) (accepted job downloader watch file response)
      scene := by
  refine (keeps_of_quiet (.ofExcept _) (Or.inl rfl)).bind fun total here announced _ => ?_
  obtain rfl : scene = here := congrArg Prod.snd announced
  refine (keeps_of_quiet (only_log ..).quiet (Or.inl rfl)).bind fun _ there logged _ => ?_
  obtain rfl : scene = there := congrArg Prod.snd logged
  exact keeps_fill _

/-- **The request and the writing leave nothing but a draft**, whatever happens. -/
theorem keeps_fetch :
    surroundings.Keeps (scene.tree.Draft file) (fetch job downloader watch file) scene := by
  have quiet : (Action.ofProgram (send (job.request downloader)).outcome).Only Effect.IsQuiet :=
    .ofProgram (.perform trivial)
  refine (keeps_of_quiet quiet (Or.inl rfl)).bind fun result here sent _ => ?_
  have same : (surroundings.attempt _ scene).2.tree = scene.tree := tree_of_quiet quiet
  rw [sent] at same
  rw [← same]
  cases result with
  | error failure =>
    refine keeps_of_quiet ?_ (Or.inl rfl)
    exact .ite (.bind (only_log ..).quiet fun _ => .throw _) (.throw _)
  | ok response =>
    refine Surroundings.Keeps.whatever ?_ fun later draft =>
      keeps_of_quiet (.ofProgram (.perform trivial)) draft
    by_cases refusal : response.isRefusal = true
    · rw [if_pos refusal]
      exact keeps_of_quiet (only_refused job response).quiet (Or.inl rfl)
    · rw [if_neg refusal]
      exact keeps_accepted response

/-- The files after an action that may be followed by quiet ones are those after the action. -/
theorem tree_orElse_of_quiet {α : Type} {action : Action α} {handler : Failure → Action α}
    (quiet : ∀ failure, (handler failure).Only Effect.IsQuiet) :
    (surroundings.attempt (action.orElse handler) scene).2.tree
      = (surroundings.attempt action scene).2.tree := by
  rw [Surroundings.attempt_orElse]
  split
  · rename_i done
    rw [done]
  · rename_i failure after failed
    rw [tree_of_quiet (quiet failure), failed]

/-- **The new file is renamed or all stays as it is.** -/
theorem attempt_settle_eq_ok_iff {destination : Path} :
    surroundings.attempt (settle job file destination) scene = (.ok (), later)
      ↔ surroundings.refusals.rename = none
          ∧ ∃ after, scene.tree.rename file destination = .ok after
            ∧ later = { scene with tree := after } := by
  refine (Surroundings.attempt_orElse_eq_ok_iff fun failure now => ?_).trans ?_
  · split
    · exact ⟨_, rfl⟩
    · exact ⟨_, rfl⟩
  · refine (attempt_file_eq_ok_iff (.rename file destination) ()).trans ?_
    simp only [onFile_rename_eq_ok_iff, and_assoc, exists_and_left]
    rfl

/-- The trace of a settling that succeeds is the rename alone. -/
theorem trace_settle {destination : Path}
    (settled : surroundings.attempt (settle job file destination) scene = (.ok (), later)) :
    surroundings.trace (settle job file destination) scene
      = [⟨.file (.rename file destination), scene.tree, later.tree⟩] := by
  obtain ⟨free, after, moved, rfl⟩ := attempt_settle_eq_ok_iff.mp settled
  have replied : surroundings.onFile scene (.rename file destination) = (.ok (), after) :=
    onFile_rename_eq_ok_iff.mpr ⟨free, moved⟩
  have renamed : surroundings.attempt (Files.rename file destination) scene
      = (.ok (), { scene with tree := after }) := by
    refine (attempt_file _).trans ?_
    rw [replied]
    rfl
  unfold settle
  rw [Surroundings.trace_orElse_of_ok renamed]
  show [Step.mk _ _ (surroundings.onFile scene (.rename file destination)).2] = _
  rw [replied]

/-- A settling that fails changes nothing. -/
theorem keeps_settle_of_error {destination : Path} {failure : Failure}
    (unsettled : surroundings.attempt (settle job file destination) scene
      = (.error failure, later)) :
    surroundings.Keeps (· = scene.tree) (settle job file destination) scene := by
  have stays : (surroundings.onFile scene (.rename file destination)).2 = scene.tree := by
    rcases surroundings.onFile_done_or_failed scene (.rename file destination) with
      ⟨_, after, done⟩ | ⟨_, failed⟩
    · obtain ⟨free, moved⟩ := onFile_rename_eq_ok_iff.mp done
      have settled : surroundings.attempt (settle job file destination) scene = _ :=
        attempt_settle_eq_ok_iff.mpr ⟨free, after, moved, rfl⟩
      rw [unsettled] at settled
      cases settled
    · rw [failed]
  refine Surroundings.Keeps.orElse (.perform rfl stays) fun failure now _ here => ?_
  exact keeps_of_quiet (.ite (.bind (only_log ..).quiet fun _ => .throw _) (.throw _)) here

/-- The files after clearing up are those after the removal. -/
theorem tree_clear :
    (surroundings.attempt (clear file) scene).2.tree
      = (surroundings.onFile scene (.remove file)).2 := by
  unfold clear Files.removeIfPresent
  rw [tree_orElse_of_quiet fun _ => .ite (only_log ..).quiet (.throw _),
    tree_orElse_of_quiet fun _ => .ite (.pure _) (.throw _)]
  rfl

/-- **Clearing up changes nothing but what the file's path names.** -/
theorem keeps_clear (draft : tree.Draft file scene.tree) :
    surroundings.Keeps (tree.SameBut file) (clear file) scene := by
  have removed : tree.SameBut file (surroundings.onFile scene (.remove file)).2 := by
    rcases surroundings.onFile_done_or_failed scene (.remove file) with
      ⟨_, after, done⟩ | ⟨_, failed⟩
    · rw [done]
      exact draft.sameBut_remove (onFile_remove_eq_ok_iff.mp done).2
    · rw [failed]
      exact draft.sameBut
  have kept : surroundings.Keeps (tree.SameBut file) (Files.remove file) scene :=
    .perform draft.sameBut removed
  refine Surroundings.Keeps.orElse (kept.orElse ?_) ?_
  · exact fun _ _ _ here => keeps_of_quiet (.ite (.pure _) (.throw _)) here
  · exact fun _ _ _ here => keeps_of_quiet (.ite (only_log ..).quiet (.throw _)) here

end Download

end Kept

end AssetFetch
