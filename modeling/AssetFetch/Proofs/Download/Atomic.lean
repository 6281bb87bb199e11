/-
**The destination is absent, as before, or complete.**

* `Download.Course`: the steps of a download that succeeds, around the one that renames the new
  file;
* `Atomic`: what a download may do to the files, at every step and in the end;
* `download_atomic`: every download does no more;
* `tree_of_failed_download`, `failed_download_leaves_no_trace_iff`: what a failed download leaves,
  and when that is nothing.
-/

import AssetFetch.Proofs.Download.Whole
import AssetFetch.Proofs.TemporaryPath

namespace AssetFetch

open AssetFetch.Text FileTree

namespace Download

/-! ### The course of a download -/

section Courses

variable {surroundings : Surroundings} {scene later : Scene} {tree : FileTree} {job : Download}
  {downloader : Downloader} {watch : Watch} {file destination result : Path}

/-- The steps of a download that succeeds: up to one of them there is at most a draft, that one
renames the draft to the destination, and nothing changes behind it. -/
structure Course (tree : FileTree) (file destination : Path) (entry : Entry)
    (location place : Location) (early : List Step) (settled : Step) (late : List Step) : Prop where
  drafts : ∀ step ∈ early, tree.Draft file step.before ∧ tree.Draft file step.after
  renames : settled = ⟨.file (.rename file destination), tree.put location entry,
    tree.put place entry⟩
  quiet : ∀ step ∈ late, step.before = settled.after ∧ step.after = settled.after

/-- **A download that succeeds takes such a course**, and what it renames is complete. -/
theorem exists_course (path : job.destination.path = .ok destination)
    (fresh : temporaryPath destination surroundings.name = .ok file)
    (beside : Beside file destination)
    (ok : surroundings.attempt (download downloader job watch) (.start tree)
      = (.ok result, later)) :
    ∃ response total pieces data location place early settled late,
      Delivers surroundings downloader job watch tree file destination response total pieces data
        location place
      ∧ surroundings.trace (download downloader job watch) (.start tree) = early ++ settled :: late
      ∧ Course tree file destination (.file data (finalMode tree.privileged job.mode data)) location
          place early settled late
      ∧ later.tree = settled.after := by
  obtain ⟨_, delivered⟩ := (attempt_download_eq_ok_iff path fresh).mp ok
  obtain ⟨middle, fetched, settled⟩ := attempt_deliver_eq_ok_iff.mp delivered
  obtain ⟨response, total, pieces, data, location, place, wished, wanted, delivers, drafted, rfl⟩ :=
    exists_delivers beside fetched settled
  obtain ⟨late, steps, quiet⟩ := trace_download downloader watch (.start tree) path fresh
  have kept : surroundings.Keeps (tree.Draft file) (job.fetch downloader watch file)
      (.start tree) := keeps_fetch
  refine ⟨response, total, pieces, data, location, place,
    ⟨.randomName, tree, tree⟩ :: surroundings.trace (job.fetch downloader watch file) (.start tree),
    _, late, delivers, ?_, ⟨?_, rfl, ?_⟩, rfl⟩
  · rw [steps, deliverOrClear, Surroundings.trace_orElse_of_ok delivered,
      trace_deliver fetched settled, drafted]
    simp [Scene.start, allWritten]
  · intro step member
    rcases List.mem_cons.mp member with rfl | inside
    · exact ⟨Or.inl rfl, Or.inl rfl⟩
    · exact kept.1 step inside
  · intro step member
    rw [attempt_deliverOrClear_eq_ok_iff.mpr delivered] at quiet
    obtain ⟨before, after⟩ := quiet step member
    exact ⟨before, after.trans before⟩

end Courses

/-! ### The destination at every step -/

section Atomicity

variable {surroundings : Surroundings} {tree : FileTree} {job : Download} {downloader : Downloader}
  {watch : Watch}

/-- **The destination is absent, as before, or complete.** If the download fails, the destination is
as before at every step and in the end. If it succeeds, one step renames a file with all the data of
the body to the destination, which is as before until then, and from then on nothing changes. At
every step and in the end, only what the two paths name may differ. -/
structure Atomic (surroundings : Surroundings) (downloader : Downloader) (job : Download)
    (watch : Watch) (tree : FileTree) (file destination : Path) : Prop where
  failed : ∀ failure later,
    surroundings.attempt (download downloader job watch) (.start tree) = (.error failure, later) →
    surroundings.Keeps (fun now => now.status destination = tree.status destination)
      (download downloader job watch) (.start tree)
  succeeded : ∀ result later,
    surroundings.attempt (download downloader job watch) (.start tree) = (.ok result, later) →
    ∃ (response : Response) (pieces : List Bytes) (data : Bytes) (early : List Step)
        (settled : Step) (late : List Step),
      surroundings.script.head? = some (.ok response)
      ∧ response.arrivals downloader.pieceSize = pieces.map .ok
      ∧ contentOf job.gunzip pieces.flatten = .ok data
      ∧ surroundings.trace (download downloader job watch) (.start tree) = early ++ settled :: late
      ∧ (∀ step ∈ early, step.before.status destination = tree.status destination
          ∧ step.after.status destination = tree.status destination)
      ∧ settled.effect = .file (.rename file destination)
      ∧ settled.before.status destination = tree.status destination
      ∧ settled.before.status file = .ok (.file data (finalMode tree.privileged job.mode data))
      ∧ settled.after.status destination
        = .ok (.file data (finalMode tree.privileged job.mode data))
      ∧ (∀ step ∈ late, step.before = settled.after ∧ step.after = settled.after)
      ∧ later.tree = settled.after
  framed : surroundings.Keeps
    (fun now => ∀ place, now.get? place ≠ tree.get? place →
      tree.locate file = .ok (.named place) ∨ tree.locate destination = .ok (.named place))
    (download downloader job watch) (.start tree)

/-- Only what the two paths name differs while a download succeeds. -/
theorem framed_of_ok {file destination result : Path} {later : Scene}
    (path : job.destination.path = .ok destination)
    (fresh : temporaryPath destination surroundings.name = .ok file)
    (beside : Beside file destination)
    (ok : surroundings.attempt (download downloader job watch) (.start tree)
      = (.ok result, later)) :
    surroundings.Keeps
      (fun now => ∀ place, now.get? place ≠ tree.get? place →
        tree.locate file = .ok (.named place) ∨ tree.locate destination = .ok (.named place))
      (download downloader job watch) (.start tree) := by
  obtain ⟨response, total, pieces, data, location, place, early, settled, late, delivers, steps,
    course, last⟩ := exists_course path fresh beside ok
  -- before the rename only a draft differs, and from the rename on only the destination does
  have drafted : ∀ now, tree.Draft file now → ∀ other, now.get? other ≠ tree.get? other →
      tree.locate file = .ok (.named other) ∨ tree.locate destination = .ok (.named other) :=
    fun now draft other differs => Or.inl (draft.sameBut.locate_of_differs differs)
  have moved : ∀ other, settled.after.get? other ≠ tree.get? other →
      tree.locate file = .ok (.named other) ∨ tree.locate destination = .ok (.named other) := by
    intro other differs
    rw [course.renames] at differs
    by_cases here : other = place
    · rw [here]
      exact Or.inr delivers.placed.1
    · exact absurd (get?_put_of_ne here) differs
  refine ⟨fun step member => ?_, ?_⟩
  · replace member : step ∈ surroundings.trace (download downloader job watch) (.start tree) :=
      member
    rw [steps] at member
    rcases List.mem_append.mp member with before | behind
    · obtain ⟨first, second⟩ := course.drafts step before
      exact ⟨drafted _ first, drafted _ second⟩
    · rcases List.mem_cons.mp behind with rfl | after
      · refine ⟨drafted _ ?_, moved⟩
        rw [course.renames]
        exact Or.inr ⟨location, _, _, delivers.vacant, rfl⟩
      · obtain ⟨first, second⟩ := course.quiet step after
        rw [first, second]
        exact ⟨moved, moved⟩
  · have ended : (surroundings.run (download downloader job watch).outcome (.start tree)).2.tree
        = settled.after := by
      rw [show surroundings.run _ (Scene.start tree) = _ from ok]
      exact last
    rw [ended]
    exact moved

/-- **Every download is atomic**: for all files, all responses, all wishes to stop, all failures of
the follower and of operations on files. -/
theorem download_atomic {text : LooseText} (isToken : IsToken surroundings.name)
    (destined : job.destination = .named text) (named : (Path.ofText text).name ≠ "") :
    Atomic surroundings downloader job watch tree
      ((Path.ofText text).fresh surroundings.name) (Path.ofText text) := by
  have path : job.destination.path = .ok (Path.ofText text) := by rw [destined]; rfl
  have fresh := temporaryPath_eq named isToken
  have beside := fresh_beside isToken (Path.ofText text)
  constructor
  · intro failure later failed
    exact (keeps_download_of_error path fresh failed).mono fun _ same => same.status_beside beside
  · intro result later ok
    obtain ⟨response, total, pieces, data, location, place, early, settled, late, delivers, steps,
      course, last⟩ := exists_course path fresh beside ok
    refine ⟨response, pieces, data, early, settled, late, delivers.answered, delivers.arrived,
      delivers.unpacked, steps, fun step member => ?_, ?_, ?_, ?_, ?_, course.quiet, last⟩
    · obtain ⟨before, after⟩ := course.drafts step member
      exact ⟨before.sameBut.status_beside beside, after.sameBut.status_beside beside⟩
    · rw [course.renames]
    · rw [course.renames]
      exact delivers.vacant.status_beside beside _
    · rw [course.renames]
      exact delivers.vacant.status_put _
    · rw [course.renames]
      exact delivers.placed.status_put _
  · cases ended : surroundings.attempt (download downloader job watch) (.start tree) with
    | mk outcome later =>
      cases outcome with
      | error failure =>
        exact (keeps_download_of_error path fresh ended).mono fun _ same _ differs =>
          Or.inl (same.locate_of_differs differs)
      | ok result => exact framed_of_ok path fresh beside ended

/-- Three bytes for one file. -/
def threeBytes : Download :=
  ⟨.text "https://host/asset", .named "asset.bin", .absent, "asset", false⟩

/-- A response that brings three bytes in two pieces. -/
def threeBytesResponse : Response :=
  ⟨200, [("content-length", .text "3")], .pieces [.ok [1, 2], .ok [3]],
    .utf8 Json.Depths.usual.read⟩

/-- Three bytes that replace an older file. -/
theorem download_atomic_three_bytes :
    IsToken "0123456789" ∧ threeBytes.destination = .named "asset.bin"
      ∧ (Path.ofText "asset.bin").name ≠ ""
      ∧ Atomic (.calm "0123456789" [.ok threeBytesResponse]) .standard threeBytes .counts
        ⟨[(["asset.bin"], .file [9] 0o600)], false⟩ ((Path.ofText "asset.bin").fresh "0123456789")
        (Path.ofText "asset.bin") :=
  ⟨by decide, rfl, by decide +kernel, download_atomic (by decide) rfl (by decide +kernel)⟩

end Atomicity

/-! ### What a failed download leaves -/

section Failing

variable {surroundings : Surroundings} {tree : FileTree} {job : Download} {downloader : Downloader}
  {watch : Watch} {failure : Failure} {later : Scene} {location : Location}

/-- A file is there already at the place of the new file. -/
def Taken (surroundings : Surroundings) (job : Download) (tree : FileTree) (location : Location) :
    Prop :=
  ∃ destination file content mode, job.destination.path = .ok destination
    ∧ temporaryPath destination surroundings.name = .ok file
    ∧ tree.locate file = .ok (.named location) ∧ tree.get? location = some (.file content mode)

theorem tree_onFile_remove {scene : Scene} {file : Path}
    (free : surroundings.refusals.remove = none) :
    (surroundings.onFile scene (.remove file)).2
      = match scene.tree.remove file with
        | .ok after => after
        | .error _ => scene.tree := by
  rcases surroundings.onFile_done_or_failed scene (.remove file) with
    ⟨_, after, done⟩ | ⟨_, failed⟩
  · rw [done, (onFile_remove_eq_ok_iff.mp done).2]
  · rw [failed]
    cases removed : scene.tree.remove file with
    | error fault => rfl
    | ok after =>
      have done := onFile_remove_eq_ok_iff.mpr ⟨free, removed⟩
      rw [failed] at done
      cases done

/-- What the removal leaves of a draft: the files as before, but for a file that was there
already. -/
theorem remove_draft {scene : Scene} {file : Path} (free : surroundings.refusals.remove = none)
    (draft : tree.Draft file scene.tree) :
    (surroundings.onFile scene (.remove file)).2
      = match tree.remove file with
        | .ok after => after
        | .error _ => tree := by
  rw [tree_onFile_remove free]
  rcases draft with same | ⟨location, content, mode, vacant, same⟩
  · rw [same]
  · have absent : tree.remove file = .error .notFound := by simp [remove, vacant.1, vacant.2]
    rw [same, vacant.remove_put, absent]

/-- A download without a path for a new file does nothing to the files. -/
theorem tree_of_pathless
    (pathless : ∀ destination file, job.destination.path = .ok destination →
      temporaryPath destination surroundings.name ≠ .ok file)
    (failed : surroundings.attempt (download downloader job watch) (.start tree)
      = (.error failure, later)) : later.tree = tree := by
  rw [download_eq] at failed
  cases path : job.destination.path with
  | error other =>
    rw [path] at failed
    cases failed
    rfl
  | ok destination =>
    rw [path] at failed
    cases fresh : temporaryPath destination surroundings.name with
    | ok file => exact absurd fresh (pathless destination file path)
    | error other =>
      have placed : surroundings.attempt (.ofExcept (temporaryPath destination surroundings.name))
          (.start tree) = (.error other, .start tree) := congrArg (·, Scene.start tree) fresh
      rw [Surroundings.attempt_bind_of_ok (Surroundings.attempt_ofExcept _ _),
        Surroundings.attempt_bind_of_ok (attempt_randomName _), Surroundings.attempt_bind,
        placed] at failed
      cases failed
      rfl

/-- What a failed download leaves, where there is a path for the new file. -/
theorem tree_of_failed_download {destination file : Path}
    (path : job.destination.path = .ok destination)
    (fresh : temporaryPath destination surroundings.name = .ok file)
    (free : surroundings.refusals.remove = none)
    (failed : surroundings.attempt (download downloader job watch) (.start tree)
      = (.error failure, later)) :
    later.tree = match tree.remove file with
      | .ok after => after
      | .error _ => tree := by
  have cleared := (attempt_download_eq_error_iff path fresh).mp failed
  obtain ⟨cause, middle, delivered, same⟩ := attempt_deliverOrClear_of_error cleared
  have draft : tree.Draft file middle.tree := by
    have kept := (keeps_deliver_of_error delivered).2
    rwa [show surroundings.run _ (Scene.start tree) = _ from delivered] at kept
  rw [same, remove_draft free draft]

/-- **A failed download leaves no trace exactly when** no file was there at the place of the new
file; otherwise that file is gone. -/
theorem failed_download_leaves_no_trace_iff (free : surroundings.refusals.remove = none)
    (failed : surroundings.attempt (download downloader job watch) (.start tree)
      = (.error failure, later)) :
    (later.tree = tree ↔ ∀ location, ¬ Taken surroundings job tree location)
      ∧ ∀ location, Taken surroundings job tree location → later.tree = tree.erase location := by
  have gone : ∀ location, Taken surroundings job tree location →
      later.tree = tree.erase location := by
    rintro location ⟨destination, file, content, mode, path, fresh, located, held⟩
    rw [tree_of_failed_download path fresh free failed,
      remove_eq_ok_iff.mpr ⟨location, content, mode, located, held, rfl⟩]
  refine ⟨⟨fun same location taken => ?_, fun vacant => ?_⟩, gone⟩
  · -- the file that was there is missing from what is left
    have erased := gone location taken
    obtain ⟨_, _, content, mode, _, _, _, held⟩ := taken
    have free : location.isGiven = false := not_given_of_ne_directory (by rw [held]; simp)
    rw [← same, erased, get?_erase_self free] at held
    cases held
  · by_cases placed : ∃ destination file, job.destination.path = .ok destination
        ∧ temporaryPath destination surroundings.name = .ok file
    · obtain ⟨destination, file, path, fresh⟩ := placed
      rw [tree_of_failed_download path fresh free failed]
      cases removed : tree.remove file with
      | error fault => rfl
      | ok after =>
        obtain ⟨location, content, mode, located, held, _⟩ := remove_eq_ok_iff.mp removed
        exact absurd ⟨destination, file, content, mode, path, fresh, located, held⟩
          (vacant location)
    · refine tree_of_pathless (fun destination file path fresh => ?_) failed
      exact placed ⟨destination, file, path, fresh⟩

/-- Files among which one has the name of the new file. -/
def occupied : FileTree := ⟨[(["asset0123456789"], .file [0x69] 0o644)], false⟩

/-- Surroundings that refuse the request. -/
def refusing : Surroundings := .calm "0123456789"
  [.ok ⟨500, [], .whole [], .utf8 Json.Depths.usual.read⟩]

/-- A refused request, where such a file is there. -/
theorem failed_download_leaves_no_trace_iff_refused :
    refusing.refusals.remove = none ∧ ∃ failure later,
      refusing.attempt (download .standard threeBytes .nobody) (.start occupied)
          = (.error failure, later)
        ∧ (later.tree = occupied ↔ ∀ location, ¬ Taken refusing threeBytes occupied location)
        ∧ ∀ location, Taken refusing threeBytes occupied location →
          later.tree = occupied.erase location := by
  refine ⟨rfl, ?_⟩
  have failed : (refusing.attempt (download .standard threeBytes .nobody)
      (.start occupied)).1.isOk = false := by decide +kernel
  obtain ⟨failure, later, same⟩ := Surroundings.exists_failure failed
  exact ⟨failure, later, same, failed_download_leaves_no_trace_iff rfl same⟩

/-- **A failed download may remove a file that it did not create.** -/
theorem failed_download_removes_another_file :
    refusing.refusals.remove = none
      ∧ (refusing.attempt (download .standard threeBytes .nobody) (.start occupied)).1.isOk = false
      ∧ (refusing.attempt (download .standard threeBytes .nobody) (.start occupied)).2.tree
        ≠ occupied := by
  decide +kernel

end Failing

end Download

end AssetFetch
