/-
**Which failures a download explains.**

A request, the operations on files and the pieces of a body can fail, and so can the decompression.
A download says of each such failure which address and which destination it is about. The body of a
refused request is read outside all handlers, so that a failure there is passed on as it is; and
where the new file cannot be closed after its body has broken off, the failure of the close takes
the place of the first one.

* `attempt_clear`, `attempt_download_eq_error_iff_deliver`: removing the new file hides no failure,
  if the system reports what comes of it;
* `isOfFile_of_download_error`: otherwise it hides every failure;
* `Raises`: the first failure of a download; `Loses`: it gives way to that of the close;
* `Explains`: every such failure is explained, and none is passed on;
* `download_explains_iff`: **a download does so exactly if** the body of a refusal can be read, and
  no failure is lost or hidden;
* `unreadable_refusal_is_passed_on`: one that cannot.
-/

import AssetFetch.Proofs.Download.Atomic
import AssetFetch.Proofs.Download.Interrupts

namespace AssetFetch

open AssetFetch.Text

/-- Surroundings whose failures are of the kinds that they are told of: a request fails for the
network and an operation on files for the system, and the follower does not fail. -/
structure Surroundings.AreUsual (surroundings : Surroundings) : Prop where
  request : ∀ failure, .error failure ∈ surroundings.script → failure.isNetwork = true
  refused : ∀ writes action failure,
    surroundings.refusals.of writes action = some failure → failure.isSystem = true
  calm : ∀ number, surroundings.follow number = .ok ()

/-- Where nothing goes wrong but what the responses bring, that is so if the requests fail for the
network. -/
theorem Surroundings.areUsual_calm {name : String} {script : List (Except Failure Response)}
    (request : ∀ failure, .error failure ∈ script → failure.isNetwork = true) :
    (calm name script).AreUsual where
  request := request
  refused _ action _ refusal := by cases action <;> cases refusal
  calm _ := rfl

namespace Download

variable {surroundings : Surroundings} {scene later : Scene} {tree : FileTree} {job : Download}
  {downloader : Downloader} {watch : Watch} {file destination : Path} {failure : Failure}
  {response : Response}

/-! ### What the parts make of a failure -/

section Parts

/-- **Removing the new file never fails**, if the system reports what comes of it. -/
theorem attempt_clear (taken : surroundings.TakesRemoval file)
    (refused : ∀ failure, surroundings.refusals.remove = some failure → failure.isSystem = true)
    (scene : Scene) : ∃ later, surroundings.attempt (clear file) scene = (.ok (), later) := by
  cases removed : surroundings.attempt (Files.remove file) scene with
  | mk result after =>
    cases result with
    | ok done =>
      have present : surroundings.attempt (Files.removeIfPresent file) scene = (.ok (), after) := by
        rw [Files.removeIfPresent, Surroundings.attempt_orElse, removed]
      exact ⟨after, by rw [clear, Surroundings.attempt_orElse, present]⟩
    | error failure =>
      have system : failure.isSystem = true :=
        Surroundings.isSystem_of_remove_error taken refused (congrArg Prod.fst removed)
      rw [clear, Files.removeIfPresent, Surroundings.attempt_orElse, Surroundings.attempt_orElse,
        removed]
      by_cases missing : failure.isNotFound = true
      · simp only [if_pos missing]
        exact ⟨after, rfl⟩
      · simp only [if_neg missing, Surroundings.attempt_throw, if_pos system]
        exact ⟨after, rfl⟩

/-- Otherwise it always fails. -/
theorem attempt_clear_of_untaken (untaken : ¬ surroundings.TakesRemoval file) (scene : Scene) :
    ∃ failure later, surroundings.attempt (clear file) scene = (.error failure, later)
      ∧ failure.isOfFile = true ∧ failure.isSystem = false := by
  obtain ⟨failure, failed, ofFile, foreign⟩ := Surroundings.exists_of_untaken untaken
  obtain ⟨later, removed⟩ := attempt_file_of_error failed
  have there : ¬ failure.isNotFound = true := by
    cases failure with
    | system fault => cases foreign
    | _ => exact Bool.false_ne_true
  have present : surroundings.attempt (Files.removeIfPresent file) scene
      = (.error failure, later) := by
    rw [Files.removeIfPresent, Surroundings.attempt_orElse]
    rw [show surroundings.attempt (Files.remove file) scene = _ from removed]
    simp only [if_neg there, Surroundings.attempt_throw]
  refine ⟨failure, later, ?_, ofFile, foreign⟩
  rw [clear, Surroundings.attempt_orElse, present]
  simp only [foreign, Bool.false_eq_true, if_false, Surroundings.attempt_throw]

/-- **A download fails as its delivery does**, if the system reports what comes of the removal of
the new file. -/
theorem attempt_download_eq_error_iff_deliver (path : job.destination.path = .ok destination)
    (fresh : temporaryPath destination surroundings.name = .ok file)
    (taken : surroundings.TakesRemoval file)
    (refused : ∀ failure, surroundings.refusals.remove = some failure → failure.isSystem = true) :
    (surroundings.attempt (download downloader job watch) scene).1 = .error failure
      ↔ (surroundings.attempt (deliver job downloader watch file destination) scene).1
        = .error failure := by
  rw [attempt_download path fresh, deliverOrClear, Surroundings.attempt_orElse]
  cases delivered : surroundings.attempt (deliver job downloader watch file destination) scene with
  | mk result after =>
    cases result with
    | ok done => simp
    | error cause =>
      obtain ⟨last, cleared⟩ := attempt_clear taken refused after
      simp only [Surroundings.attempt_bind_of_ok cleared, Surroundings.attempt_throw,
        Except.error.injEq]

/-- Otherwise it fails as that removal does. -/
theorem isOfFile_of_download_error (path : job.destination.path = .ok destination)
    (fresh : temporaryPath destination surroundings.name = .ok file)
    (untaken : ¬ surroundings.TakesRemoval file)
    (failed : (surroundings.attempt (download downloader job watch) scene).1 = .error failure) :
    failure.isOfFile = true ∧ failure.isSystem = false := by
  rw [attempt_download path fresh, deliverOrClear, Surroundings.attempt_orElse] at failed
  cases delivered : surroundings.attempt (deliver job downloader watch file destination) scene with
  | mk result after =>
    rw [delivered] at failed
    cases result with
    | ok done => cases failed
    | error cause =>
      obtain ⟨other, last, cleared, kind⟩ := attempt_clear_of_untaken untaken after
      simp only [Surroundings.attempt_bind, cleared] at failed
      cases failed
      exact kind

/-- The failure that is made of one while writing. -/
theorem attempt_explain :
    surroundings.attempt (explain job file failure) scene
      = (.error (if failure.isInputOutput then job.failedBy failure else failure), scene) := by
  cases failure <;> rfl

theorem failsWith_explain_of {Fails : Failure → Prop} (explained : Fails (job.failedBy failure))
    (passed : failure.isInputOutput = false → Fails failure) :
    surroundings.FailsWith Fails (explain job file failure) := by
  intro scene other later failed
  rw [attempt_explain] at failed
  cases failed
  by_cases outer : failure.isInputOutput = true
  · rwa [if_pos outer]
  · rw [if_neg outer]
    exact passed (Bool.eq_false_iff.mpr outer)

theorem failsWith_explain :
    surroundings.FailsWith (fun failure => failure.isInputOutput = false)
      (explain job file failure) :=
  failsWith_explain_of rfl id

/-- The request comes first, and what it meets decides about the rest. -/
theorem attempt_fetch_start :
    surroundings.attempt (fetch job downloader watch file) (.start tree)
      = surroundings.attempt (receive job watch file downloader
          (surroundings.script.head?.getD (.error World.noMoreResponses))) (sentOnly tree 1) := by
  rw [fetch_eq, Surroundings.attempt_bind_of_ok (attempt_send _)]

/-- An accepted response whose size is known is written. -/
theorem attempt_receive_of_announced {total : Nat} (accepted : response.isRefusal = false)
    (announced : Announces response total) :
    surroundings.attempt (receive job watch file downloader (.ok response)) scene
      = surroundings.attempt (fill job watch file total (response.arrivals downloader.pieceSize))
          scene := by
  have size : surroundings.attempt (.ofExcept
      (contentLength job.url ((response.headers.value? "content-length").getD .null))) scene
      = (.ok total, scene) := Prod.ext ((contentLength_eq_ok_iff job.url).mpr announced) rfl
  rw [receive, attempt_whatever_close, accepted, if_neg Bool.false_ne_true, Download.accepted,
    Surroundings.attempt_bind_of_ok size]
  rfl

theorem attempt_receive_of_refusal (refusal : response.isRefusal = true) :
    surroundings.attempt (receive job watch file downloader (.ok response)) scene
      = surroundings.attempt (refused job response) scene := by
  rw [receive, attempt_whatever_close, if_pos refusal]

/-- What is wrong with the announcement of a size. -/
theorem cases_of_contentLength_error {url value : Value}
    (unknown : contentLength url value = .error failure) :
    failure = .ofFetch (.contentLength url value) ∨ (∃ fault, failure = .numeral fault)
      ∨ ∃ kind member, failure = .noMember kind member := by
  unfold contentLength at unknown
  split at unknown
  · cases unknown
    exact Or.inl rfl
  · simp only at unknown
    split at unknown
    · cases unknown
      exact Or.inl rfl
    · rename_i characters _
      cases number : decimalNumber (String.ofList (trimChars characters.shown.toList)) with
      | ok size =>
        rw [number] at unknown
        cases unknown
      | error fault =>
        rw [number] at unknown
        cases unknown
        exact Or.inr (Or.inl ⟨fault, rfl⟩)
  · cases unknown
    exact Or.inr (Or.inr ⟨_, _, rfl⟩)

/-- **What is made of a response** is no failure of input and output, if a refusal can be read. -/
theorem failsWith_receive
    (readable : response.isRefusal = true → ∀ failure, response.text = .error failure →
      failure.isInputOutput = false) :
    surroundings.FailsWith (fun failure => failure.isInputOutput = false)
      (receive job watch file downloader (.ok response)) := by
  refine .whatever (.ite (fun refusal => ?_) fun _ => ?_) (.ofProgram _)
  · exact .bind (.ofExcept (readable refusal)) fun _ => .bind (.log _ _ _) fun _ =>
      .bind (.log _ _ _) fun _ => .throw rfl
  · refine .bind (.ofExcept fun failure unknown => ?_) fun _ => .bind (.log _ _ _) fun _ =>
      .orElse (.anything _) fun failure _ => failsWith_explain
    rcases cases_of_contentLength_error unknown with rfl | ⟨fault, rfl⟩ | ⟨kind, member, rfl⟩
    all_goals rfl

/-- What is made of a failed rename. -/
theorem failsWith_settle (usual : surroundings.AreUsual) :
    surroundings.FailsWith (fun failure => failure.isInputOutput = false)
      (settle job file destination) := by
  have renames : surroundings.FailsWith
      (fun failure => failure.isSystem = true ∨ failure.isInputOutput = false)
      (Files.rename file destination) := by
    refine .file fun scene failure failed => ?_
    rcases Surroundings.isOfFile_of_error failed with refused | ofFile
    · exact Or.inl (usual.refused _ _ _ refused)
    · exact Failure.isInputOutput_of_isOfFile ofFile
  refine renames.orElse fun failure known => .ite (fun _ => ?_) fun foreign => ?_
  · exact .bind (.log _ _ _) fun _ => .throw rfl
  · exact .throw (known.resolve_left foreign)

end Parts

/-! ### The first failure -/

section Failing

/-- **The first failure of a download**: the request fails, the body of a refusal cannot be read,
the writing of an accepted body is interrupted, or the new file cannot be renamed. -/
inductive Raises (surroundings : Surroundings) (downloader : Downloader) (job : Download)
    (watch : Watch) (tree : FileTree) (file destination : Path) (failure : Failure) : Prop
  | request : surroundings.script.head? = some (.error failure) →
      Raises surroundings downloader job watch tree file destination failure
  | refusal {response : Response} : surroundings.script.head? = some (.ok response) →
      response.isRefusal = true → response.text = .error failure →
      Raises surroundings downloader job watch tree file destination failure
  | writing {response : Response} {total : Nat} :
      surroundings.script.head? = some (.ok response) → response.isRefusal = false →
      Announces response total →
      Interrupts surroundings job watch file total (response.arrivals downloader.pieceSize)
        (sentOnly tree 1) failure →
      Raises surroundings downloader job watch tree file destination failure
  | rename {fetched : Scene} :
      surroundings.attempt (fetch job downloader watch file) (.start tree) = (.ok (), fetched) →
      (surroundings.onFile fetched (.rename file destination)).1 = .error failure →
      Raises surroundings downloader job watch tree file destination failure

/-- **The first failure is lost**: an accepted body breaks off with it, and the failure of the close
takes its place. -/
def Loses (surroundings : Surroundings) (downloader : Downloader) (job : Download) (watch : Watch)
    (tree : FileTree) (file : Path) (failure other : Failure) : Prop :=
  ∃ response total, surroundings.script.head? = some (.ok response)
    ∧ response.isRefusal = false ∧ Announces response total
    ∧ Replaces surroundings job watch file total (response.arrivals downloader.pieceSize)
        (sentOnly tree 1) failure other

/-- **Failures of input and output are explained**: the first of them is the cause of a failed
download of the address to the destination, as it was given or as a path, and none is passed on.
The cause is that failure itself, and no other one that says the same. -/
structure Explains (surroundings : Surroundings) (downloader : Downloader) (job : Download)
    (watch : Watch) (tree : FileTree) (file destination : Path) : Prop where
  explained : ∀ failure, Raises surroundings downloader job watch tree file destination failure →
    failure.isInputOutput = true → ∃ place,
      (place = job.destination.text ∨ place = destination.text)
      ∧ (surroundings.attempt (download downloader job watch) (.start tree)).1
        = .error (.fetch (.download ⟨job.url, place, .null, none, .null, .null⟩) (some failure))
  itself : ∀ failure other, failure.isInputOutput = true →
    ¬ Loses surroundings downloader job watch tree file failure other
  kept : ∀ failure,
    (surroundings.attempt (download downloader job watch) (.start tree)).1 = .error failure →
    failure.isInputOutput = false

/-- What the delivery makes of the first failure. -/
theorem attempt_deliver_of_raises (usual : surroundings.AreUsual)
    (raises : Raises surroundings downloader job watch tree file destination failure)
    (outer : failure.isInputOutput = true)
    (stays : ∀ other, ¬ Loses surroundings downloader job watch tree file failure other)
    (readable : ∀ response, surroundings.script.head? = some (.ok response) →
      response.isRefusal = true → response.text ≠ .error failure) :
    ∃ place, (place = job.destination.text ∨ place = destination.text)
      ∧ (surroundings.attempt (deliver job downloader watch file destination) (.start tree)).1
        = .error (job.failedTo place failure) := by
  have unfetched : ∀ failure later,
      surroundings.attempt (fetch job downloader watch file) (.start tree)
          = (.error failure, later) →
      (surroundings.attempt (deliver job downloader watch file destination) (.start tree)).1
        = .error failure := by
    intro failure later failed
    rw [deliver, Surroundings.attempt_bind, failed]
  rcases raises with first | ⟨first, refusal, unread⟩ | ⟨first, accepted, announced, interrupts⟩ |
    ⟨fetched, refused⟩
  · have network := usual.request failure (List.mem_of_head? first)
    refine ⟨_, Or.inl rfl, unfetched _ (sentOnly tree 1) ?_⟩
    rw [attempt_fetch_start, first, Option.getD_some, receive, if_pos network]
    rfl
  · exact absurd unread (readable _ first refusal)
  · obtain ⟨cause, last, wrote, rfl | replaces⟩ :=
      attempt_writeAll_of_interrupts usual.calm outer interrupts
    case inr => exact absurd ⟨_, _, first, accepted, announced, replaces⟩ (stays cause)
    refine ⟨_, Or.inl rfl, unfetched _ last ?_⟩
    rw [attempt_fetch_start, first, Option.getD_some,
      attempt_receive_of_announced accepted announced, fill, Surroundings.attempt_orElse, wrote]
    simp only [attempt_explain, if_pos outer]
    rfl
  · have system : failure.isSystem = true := by
      rcases Surroundings.isOfFile_of_error refused with refusal | ofFile
      · exact usual.refused _ _ _ refusal
      · exact (Failure.isInputOutput_of_isOfFile ofFile).resolve_right (by simp [outer])
    obtain ⟨last, moved⟩ := attempt_file_of_error refused
    refine ⟨_, Or.inr rfl, ?_⟩
    rw [deliver, Surroundings.attempt_bind_of_ok fetched, settle, Surroundings.attempt_orElse]
    rw [show surroundings.attempt (Files.rename file destination) _ = _ from moved]
    simp only [if_pos system]
    rfl

/-- What the delivery fails with is no failure of input and output, if the body of a refusal can be
read. -/
theorem isInputOutput_of_deliver_error (usual : surroundings.AreUsual)
    (readable : ∀ response failure, surroundings.script.head? = some (.ok response) →
      response.isRefusal = true → response.text = .error failure → failure.isInputOutput = false)
    (failed : (surroundings.attempt (deliver job downloader watch file destination)
      (.start tree)).1 = .error failure) : failure.isInputOutput = false := by
  rw [deliver, Surroundings.attempt_bind] at failed
  split at failed
  · rename_i fetched _
    exact failsWith_settle usual _ _ _ (Prod.ext failed rfl)
  · rename_i unfetched
    cases failed
    rw [attempt_fetch_start] at unfetched
    cases first : surroundings.script.head? with
    | none =>
      rw [first] at unfetched
      cases unfetched
      rfl
    | some reply =>
      rw [first, Option.getD_some] at unfetched
      cases reply with
      | ok response =>
        have known := fun refusal failure => readable response failure first refusal
        exact failsWith_receive known _ _ _ unfetched
      | error cause =>
        have network := usual.request cause (List.mem_of_head? first)
        rw [receive, if_pos network] at unfetched
        cases unfetched
        rfl

/-- **A download explains every failure of input and output, exactly if** there is none while the
body of a refusal is read, the new file can be closed after any with which its body breaks off, and
the system reports what comes of the removal of the new file if there is any. The request fails for
the network and the operations on files for the system. -/
theorem download_explains_iff (path : job.destination.path = .ok destination)
    (fresh : temporaryPath destination surroundings.name = .ok file)
    (usual : surroundings.AreUsual) :
    Explains surroundings downloader job watch tree file destination
      ↔ (∀ response failure, surroundings.script.head? = some (.ok response) →
          response.isRefusal = true → response.text = .error failure →
          failure.isInputOutput = false)
        ∧ (∀ failure other, failure.isInputOutput = true →
          ¬ Loses surroundings downloader job watch tree file failure other)
        ∧ ∀ failure, Raises surroundings downloader job watch tree file destination failure →
          failure.isInputOutput = true → surroundings.TakesRemoval file := by
  have ends : surroundings.TakesRemoval file → ∀ failure,
      ((surroundings.attempt (download downloader job watch) (.start tree)).1 = .error failure
        ↔ (surroundings.attempt (deliver job downloader watch file destination) (.start tree)).1
          = .error failure) := fun taken _ =>
    attempt_download_eq_error_iff_deliver path fresh taken
      fun failure refused => usual.refused 0 (.remove file) failure refused
  constructor
  · intro explains
    have taken : ∀ failure, Raises surroundings downloader job watch tree file destination failure →
        failure.isInputOutput = true → surroundings.TakesRemoval file := by
      intro failure raises outer
      by_contra untaken
      obtain ⟨place, _, failed⟩ := explains.explained failure raises outer
      cases (isOfFile_of_download_error path fresh untaken failed).1
    refine ⟨fun response failure first refusal unread => Bool.eq_false_iff.mpr fun outer => ?_,
      explains.itself, taken⟩
    have read : surroundings.attempt (.ofExcept response.text) (sentOnly tree 1)
        = (.error failure, sentOnly tree 1) := Prod.ext unread rfl
    refine Bool.eq_false_iff.mp (explains.kept failure ?_) outer
    refine (ends (taken failure (.refusal first refusal unread) outer) failure).mpr ?_
    rw [deliver, Surroundings.attempt_bind, attempt_fetch_start, first, Option.getD_some,
      attempt_receive_of_refusal refusal, refused, Surroundings.attempt_bind, read]
  · rintro ⟨readable, itself, taken⟩
    refine ⟨?_, itself, ?_⟩
    · intro failure raises outer
      obtain ⟨place, known, delivered⟩ := attempt_deliver_of_raises usual raises outer
        (fun other => itself failure other outer) fun response first refusal unread => by
          rw [readable response failure first refusal unread] at outer
          cases outer
      exact ⟨place, known, (ends (taken failure raises outer) _).mpr delivered⟩
    · intro failure failed
      by_cases reported : surroundings.TakesRemoval file
      · exact isInputOutput_of_deliver_error usual readable ((ends reported failure).mp failed)
      · obtain ⟨ofFile, foreign⟩ := isOfFile_of_download_error path fresh reported failed
        exact (Failure.isInputOutput_of_isOfFile ofFile).resolve_left (by simp [foreign])

/-- A body that breaks off after two of three bytes. -/
def broken : Surroundings :=
  .calm "0123456789" [.ok ⟨200, [("content-length", .text "3")],
    .pieces [.ok [1, 2], .error (.network ⟨.badChunk, "broken off"⟩)],
    .utf8 Json.Depths.usual.read⟩]

/-- That failure is explained. -/
theorem download_explains_iff_broken :
    threeBytes.destination.path = .ok (Path.ofText "asset.bin")
      ∧ temporaryPath (Path.ofText "asset.bin") broken.name
        = .ok ((Path.ofText "asset.bin").fresh broken.name)
      ∧ broken.AreUsual
      ∧ Explains broken .standard threeBytes .counts .empty
        ((Path.ofText "asset.bin").fresh broken.name) (Path.ofText "asset.bin") := by
  have fresh : temporaryPath (Path.ofText "asset.bin") broken.name
      = .ok ((Path.ofText "asset.bin").fresh broken.name) :=
    temporaryPath_eq (by decide +kernel) (by decide)
  have usual : broken.AreUsual := Surroundings.areUsual_calm (by simp)
  have taken : broken.TakesRemoval ((Path.ofText "asset.bin").fresh broken.name) :=
    Or.inr (by decide +kernel)
  refine ⟨rfl, fresh, usual, (download_explains_iff rfl fresh usual).mpr
    ⟨?_, ?_, fun _ _ _ => taken⟩⟩
  · intro response failure first refusal
    cases first
    cases refusal
  · rintro _ _ _ ⟨_, _, _, _, _, _, _, _, unclosed⟩
    cases unclosed

/-- A refusal whose body breaks off. -/
def unreadable : Surroundings :=
  .calm "0123456789" [.ok ⟨500, [], .pieces [.error (.network ⟨.badChunk, "broken off"⟩)],
    .utf8 Json.Depths.usual.read⟩]

/-- **The body of a refusal that cannot be read**: the failure of the network is passed on. -/
theorem unreadable_refusal_is_passed_on :
    unreadable.AreUsual
      ∧ (unreadable.attempt (download .standard threeBytes .counts) (.start .empty)).1
        = .error (.network ⟨.badChunk, "broken off"⟩) := by
  have fresh : temporaryPath (Path.ofText "asset.bin") unreadable.name
      = .ok ((Path.ofText "asset.bin").fresh unreadable.name) :=
    temporaryPath_eq (by decide +kernel) (by decide)
  refine ⟨Surroundings.areUsual_calm (by simp), ?_⟩
  refine (attempt_download_eq_error_iff_deliver rfl fresh (Or.inr (by decide +kernel)) nofun).mpr ?_
  rw [deliver, Surroundings.attempt_bind, attempt_fetch_start]
  rfl

end Failing

end Download

end AssetFetch
