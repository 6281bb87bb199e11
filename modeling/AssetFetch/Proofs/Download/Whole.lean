/-
**A download from the outside.**

* `Download.deliver`, `Download.deliverOrClear`: the part of a download that touches files, without
  and with the removal after a failure;
* `Delivers`, `attempt_deliver_start_eq_ok_iff`: everything that lets a delivery succeed;
* `attempt_download_eq_ok_iff`, `attempt_download_eq_error_iff`: how a download ends, by these
  parts;
* `keeps_deliverOrClear_of_error`: a failed download leaves all as it was but for the path of the
  new file;
* `trace_download`, `trace_deliver`: the steps, by these parts;
* `only_download`: what a download asks for.
-/

import AssetFetch.Proofs.Download.Success

namespace AssetFetch

namespace Download

/-! ### The parts -/

/-- Fetches a body into the new file and puts that in the destination's place. -/
def deliver (job : Download) (downloader : Downloader) (watch : Watch) (file destination : Path) :
    Action Unit := do
  job.fetch downloader watch file
  job.settle file destination

/-- The same, and removes the new file after a failure. -/
def deliverOrClear (job : Download) (downloader : Downloader) (watch : Watch)
    (file destination : Path) : Action Unit :=
  (deliver job downloader watch file destination).orElse fun failure => do
    clear file
    throw failure

section Delivering

variable {surroundings : Surroundings} {scene later : Scene} {tree : FileTree} {job : Download}
  {downloader : Downloader} {watch : Watch} {file destination : Path} {failure : Failure}

theorem attempt_deliver_eq_ok_iff :
    surroundings.attempt (deliver job downloader watch file destination) scene = (.ok (), later)
      ↔ ∃ middle, surroundings.attempt (job.fetch downloader watch file) scene = (.ok (), middle)
        ∧ surroundings.attempt (job.settle file destination) middle = (.ok (), later) := by
  refine Surroundings.attempt_bind_eq_ok_iff.trans ?_
  constructor
  · rintro ⟨_, middle, fetched, settled⟩
    exact ⟨middle, fetched, settled⟩
  · rintro ⟨middle, fetched, settled⟩
    exact ⟨(), middle, fetched, settled⟩

/-- A delivery that fails leaves nothing but a draft. -/
theorem keeps_deliver_of_error
    (failed : surroundings.attempt (deliver job downloader watch file destination) scene
      = (.error failure, later)) :
    surroundings.Keeps (scene.tree.Draft file) (deliver job downloader watch file destination)
      scene := by
  refine Surroundings.Keeps.bind keeps_fetch fun _ middle fetched draft => ?_
  unfold deliver at failed
  rw [Surroundings.attempt_bind, fetched] at failed
  refine (keeps_settle_of_error failed).mono fun now same => ?_
  rw [same]
  exact draft

/-- The trace of a delivery that succeeds ends with the rename. -/
theorem trace_deliver {middle : Scene}
    (fetched : surroundings.attempt (job.fetch downloader watch file) scene = (.ok (), middle))
    (settled : surroundings.attempt (job.settle file destination) middle = (.ok (), later)) :
    surroundings.trace (deliver job downloader watch file destination) scene
      = surroundings.trace (job.fetch downloader watch file) scene
        ++ [⟨.file (.rename file destination), middle.tree, later.tree⟩] := by
  unfold deliver
  rw [Surroundings.trace_bind_of_ok fetched, trace_settle settled]

theorem attempt_deliverOrClear_eq_ok_iff :
    surroundings.attempt (deliverOrClear job downloader watch file destination) scene
        = (.ok (), later)
      ↔ surroundings.attempt (deliver job downloader watch file destination) scene
        = (.ok (), later) := by
  refine Surroundings.attempt_orElse_eq_ok_iff fun failure now => ?_
  rw [Surroundings.attempt_bind]
  cases surroundings.attempt (clear file) now with
  | mk result after => cases result <;> exact ⟨_, rfl⟩

/-- **A failed delivery ends with the removal of the new file.** -/
theorem attempt_deliverOrClear_of_error
    (failed : surroundings.attempt (deliverOrClear job downloader watch file destination) scene
      = (.error failure, later)) :
    ∃ cause middle, surroundings.attempt (deliver job downloader watch file destination) scene
        = (.error cause, middle)
      ∧ later.tree = (surroundings.onFile middle (.remove file)).2 := by
  unfold deliverOrClear at failed
  rw [Surroundings.attempt_orElse] at failed
  split at failed
  · cases failed
  · rename_i cause middle delivered
    refine ⟨cause, middle, delivered, ?_⟩
    rw [← tree_clear]
    rw [Surroundings.attempt_bind] at failed
    split at failed
    · rename_i cleared
      cases failed
      rw [cleared]
    · rename_i cleared
      cases failed
      rw [cleared]

/-- **A failed delivery leaves all as it was** but for the path of the new file. -/
theorem keeps_deliverOrClear_of_error
    (failed : surroundings.attempt (deliverOrClear job downloader watch file destination) scene
      = (.error failure, later)) :
    surroundings.Keeps (scene.tree.SameBut file)
      (deliverOrClear job downloader watch file destination) scene := by
  obtain ⟨cause, middle, delivered, _⟩ := attempt_deliverOrClear_of_error failed
  have kept := keeps_deliver_of_error delivered
  refine (kept.mono fun _ draft => draft.sameBut).orElse fun other now same _ => ?_
  have draft : scene.tree.Draft file now.tree := by
    have reached : scene.tree.Draft file
        (surroundings.attempt (deliver job downloader watch file destination) scene).2.tree :=
      kept.2
    rwa [same] at reached
  exact (keeps_clear draft).bind fun _ _ _ here => .done _ here

/-- Everything that lets a download succeed: a response that is no refusal and announces a size, a
body that can be written into the new file, and a destination that can take that file. -/
structure Delivers (surroundings : Surroundings) (downloader : Downloader) (job : Download)
    (watch : Watch) (tree : FileTree) (file destination : Path) (response : Response) (total : Nat)
    (pieces : List Bytes) (data : Bytes) (location place : Location) : Prop
    extends Fills surroundings job watch total pieces data where
  answered : surroundings.script.head? = some (.ok response)
  accepted : response.status < 400 ∨ 600 ≤ response.status
  announced : Announces response total
  arrived : response.arrivals downloader.pieceSize = pieces.map .ok
  vacant : tree.Vacant file location
  moved : surroundings.refusals.rename = none
  placed : tree.Accepts destination place

theorem isRefusal_eq_false_iff {response : Response} :
    response.isRefusal = false ↔ response.status < 400 ∨ 600 ≤ response.status := by
  simp only [Response.isRefusal, Bool.and_eq_false_iff, decide_eq_false_iff_not]
  omega

/-- What a fetch and a settling that succeed say about everything around them. -/
theorem exists_delivers (beside : FileTree.Beside file destination) {middle : Scene}
    (fetched : surroundings.attempt (job.fetch downloader watch file) (Scene.start tree)
      = (.ok (), middle))
    (settled : surroundings.attempt (job.settle file destination) middle = (.ok (), later)) :
    ∃ response total pieces data location place wished, wishedMode job.mode = some wished
      ∧ Delivers surroundings downloader job watch tree file destination response total pieces data
          location place
      ∧ middle.tree = tree.put location (.file data (finalMode tree.privileged job.mode data))
      ∧ later = allWritten (tree.put place
          (.file data (finalMode tree.privileged job.mode data))) 1 watch total pieces := by
  obtain ⟨response, total, location, wished, pieces, data, answered, accepted, announced, vacant,
    wanted, arrived, fills, rfl⟩ := attempt_fetch_eq_ok_iff.mp fetched
  obtain ⟨moved, after, renamed, rfl⟩ := attempt_settle_eq_ok_iff.mp settled
  obtain ⟨place, placed, rfl⟩ := (vacant.rename_put beside).mp renamed
  exact ⟨response, total, pieces, data, location, place, wished, wanted,
    { fills with
      answered, announced, arrived, vacant, moved, placed
      accepted := isRefusal_eq_false_iff.mp accepted }, rfl, rfl⟩

/-- **A delivery succeeds exactly then**, and nothing differs after it but the destination, which is
the file with all its data. -/
theorem attempt_deliver_start_eq_ok_iff (beside : FileTree.Beside file destination) :
    surroundings.attempt (deliver job downloader watch file destination) (Scene.start tree)
        = (.ok (), later)
      ↔ ∃ response total pieces data location place wished, wishedMode job.mode = some wished
        ∧ Delivers surroundings downloader job watch tree file destination response total pieces
            data location place
        ∧ later = allWritten (tree.put place
            (.file data (finalMode tree.privileged job.mode data))) 1 watch total pieces := by
  rw [attempt_deliver_eq_ok_iff]
  constructor
  · rintro ⟨_, fetched, settled⟩
    obtain ⟨response, total, pieces, data, location, place, wished, wanted, delivers, _, same⟩ :=
      exists_delivers beside fetched settled
    exact ⟨response, total, pieces, data, location, place, wished, wanted, delivers, same⟩
  · rintro ⟨response, total, pieces, data, location, place, wished, wanted, delivers, rfl⟩
    refine ⟨_, attempt_fetch_eq_ok_iff.mpr ⟨response, total, location, wished, pieces, data,
      delivers.answered, isRefusal_eq_false_iff.mpr delivers.accepted, delivers.announced,
      delivers.vacant, wanted, delivers.arrived, delivers.toFills, rfl⟩, ?_⟩
    exact attempt_settle_eq_ok_iff.mpr ⟨delivers.moved, _,
      (delivers.vacant.rename_put beside).mpr ⟨place, delivers.placed, rfl⟩, rfl⟩

end Delivering

/-! ### The whole -/

section Whole

variable {surroundings : Surroundings} {scene later : Scene} {tree : FileTree} {job : Download}
  {downloader : Downloader} {watch : Watch} {file destination result : Path} {failure : Failure}

theorem download_eq :
    download downloader job watch = (do
      let destination ← .ofExcept job.destination.path
      let suffix ← randomName
      let file ← .ofExcept (temporaryPath destination suffix)
      deliverOrClear job downloader watch file destination
      log .info Download.logger ("Downloaded " ++ job.url.shown ++ " to " ++ destination.text)
      return destination) :=
  rfl

theorem attempt_randomName (scene : Scene) :
    surroundings.attempt randomName scene = (.ok surroundings.name, scene) :=
  rfl

/-- With a destination and a path for the new file, a download is the delivery and a line in the
log. -/
theorem attempt_download (path : job.destination.path = .ok destination)
    (fresh : temporaryPath destination surroundings.name = .ok file) :
    surroundings.attempt (download downloader job watch) scene
      = match surroundings.attempt (deliverOrClear job downloader watch file destination) scene with
        | (.ok _, later) => (.ok destination, later)
        | (.error failure, later) => (.error failure, later) := by
  have destined : surroundings.attempt (.ofExcept job.destination.path) scene
      = (.ok destination, scene) := congrArg (·, scene) path
  have placed : surroundings.attempt (.ofExcept (temporaryPath destination surroundings.name)) scene
      = (.ok file, scene) := congrArg (·, scene) fresh
  rw [download_eq, Surroundings.attempt_bind_of_ok destined,
    Surroundings.attempt_bind_of_ok (attempt_randomName scene),
    Surroundings.attempt_bind_of_ok placed, Surroundings.attempt_bind]
  split
  · rename_i delivered
    rw [delivered]
    rfl
  · rename_i delivered
    rw [delivered]

theorem attempt_download_eq_ok_iff (path : job.destination.path = .ok destination)
    (fresh : temporaryPath destination surroundings.name = .ok file) :
    surroundings.attempt (download downloader job watch) scene = (.ok result, later)
      ↔ result = destination
        ∧ surroundings.attempt (deliver job downloader watch file destination) scene
          = (.ok (), later) := by
  rw [attempt_download path fresh, ← attempt_deliverOrClear_eq_ok_iff]
  split
  · rename_i delivered
    rw [delivered]
    simp [eq_comm]
  · rename_i delivered
    rw [delivered]
    simp

theorem attempt_download_eq_error_iff (path : job.destination.path = .ok destination)
    (fresh : temporaryPath destination surroundings.name = .ok file) :
    surroundings.attempt (download downloader job watch) scene = (.error failure, later)
      ↔ surroundings.attempt (deliverOrClear job downloader watch file destination) scene
        = (.error failure, later) := by
  rw [attempt_download path fresh]
  split
  · rename_i delivered
    rw [delivered]
    simp
  · rename_i delivered
    rw [delivered]
    simp

/-- The steps of a download are the choice of a name, the delivery, and a line in the log if that
succeeds. -/
theorem trace_download (downloader : Downloader) (watch : Watch) (scene : Scene)
    (path : job.destination.path = .ok destination)
    (fresh : temporaryPath destination surroundings.name = .ok file) :
    ∃ late, surroundings.trace (download downloader job watch) scene
        = ⟨.randomName, scene.tree, scene.tree⟩
          :: surroundings.trace (deliverOrClear job downloader watch file destination) scene
          ++ late
      ∧ ∀ step ∈ late, step.before = (surroundings.attempt
            (deliverOrClear job downloader watch file destination) scene).2.tree
          ∧ step.after = step.before := by
  have destined : surroundings.attempt (.ofExcept job.destination.path) scene
      = (.ok destination, scene) := congrArg (·, scene) path
  have placed : surroundings.attempt (.ofExcept (temporaryPath destination surroundings.name)) scene
      = (.ok file, scene) := congrArg (·, scene) fresh
  rw [download_eq, Surroundings.trace_bind_of_ok destined,
    Surroundings.trace_bind_of_ok (attempt_randomName scene), Surroundings.trace_bind_of_ok placed]
  cases delivered : surroundings.attempt (deliverOrClear job downloader watch file destination)
      scene with
  | mk result later =>
    cases result with
    | ok value =>
      rw [Surroundings.trace_bind_of_ok delivered]
      refine ⟨_, rfl, fun step member => ?_⟩
      rw [List.mem_singleton.mp member]
      exact ⟨rfl, rfl⟩
    | error failure =>
      rw [Surroundings.trace_bind_of_error delivered]
      exact ⟨[], (List.append_nil _).symm, by simp⟩

/-- A download keeps what its delivery keeps. -/
theorem keeps_download {holds : FileTree → Prop} (path : job.destination.path = .ok destination)
    (fresh : temporaryPath destination surroundings.name = .ok file) (first : holds scene.tree)
    (kept : surroundings.Keeps holds (deliverOrClear job downloader watch file destination) scene) :
    surroundings.Keeps holds (download downloader job watch) scene := by
  rw [download_eq]
  refine (keeps_of_quiet (.ofExcept _) first).bind fun _ there destined _ => ?_
  obtain ⟨same, rfl⟩ := Prod.mk.inj destined
  cases path.symm.trans same
  have quiet : randomName.Only Effect.IsQuiet := .ofProgram (.perform trivial)
  refine (keeps_of_quiet quiet first).bind fun _ there chosen _ => ?_
  obtain ⟨same, rfl⟩ := Prod.mk.inj ((attempt_randomName _).symm.trans chosen)
  cases same
  refine (keeps_of_quiet (.ofExcept _) first).bind fun _ there placed _ => ?_
  obtain ⟨same, rfl⟩ := Prod.mk.inj placed
  cases fresh.symm.trans same
  refine kept.bind fun _ there _ here => ?_
  exact keeps_of_quiet (.bind (only_log ..).quiet fun _ => .pure _) here

/-- A failed download leaves all as it was but for the path of the new file. -/
theorem keeps_download_of_error (path : job.destination.path = .ok destination)
    (fresh : temporaryPath destination surroundings.name = .ok file)
    (failed : surroundings.attempt (download downloader job watch) scene
      = (.error failure, later)) :
    surroundings.Keeps (scene.tree.SameBut file) (download downloader job watch) scene :=
  keeps_download path fresh (Or.inl rfl)
    (keeps_deliverOrClear_of_error ((attempt_download_eq_error_iff path fresh).mp failed))

end Whole

/-! ### What a download asks for -/

section Asked

variable {job : Download} {downloader : Downloader} {watch : Watch} {file destination : Path}

theorem only_settle : (settle job file destination).Only Effect.IsPlain :=
  .orElse (.attempt (.perform trivial)) fun _ =>
    .ite (.bind (only_log ..).plain fun _ => .throw _) (.throw _)

theorem only_download : (download downloader job watch).Only Effect.IsPlain := by
  have own : ∀ {action : Action Unit} {file : Path}, action.Only (Effect.Owns file) →
      action.Only Effect.IsPlain := fun only => only.mono fun _ => Effect.Owns.plain
  rw [download_eq]
  refine .bind (.ofExcept _) fun _ => .bind (.ofProgram (.perform trivial)) fun _ => ?_
  refine .bind (.ofExcept _) fun file => .bind ?_ fun _ =>
    .bind (only_log ..).plain fun _ => .pure _
  exact .orElse (.bind (own (only_fetch ..)) fun _ => only_settle) fun _ =>
    .bind (own ((only_clear _).mono fun _ => Effect.Fills.owns)) fun _ => .throw _

end Asked

end Download

end AssetFetch
