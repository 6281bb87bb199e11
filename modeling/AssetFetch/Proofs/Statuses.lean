/-
**Which statuses count as success.**

A status is a success from 200 to 299. Lookups and downloads only look for refusals, which are those
from 400 to 599, and treat every other response as if it had succeeded.

* `Download.attempt_deliver_ne_refusedBy`: an accepted response never makes a delivery fail as a
  refused one does;
* `Download.Rejects`, `Download.rejects_of_refusal`: a refused download tells of the status, the
  body and the headers, creates nothing and leaves the destination as it is;
* `attempt_lookup_refused_iff`, `rejects_iff`: a lookup and a download fail so exactly if the status
  is one of a refusal;
* `fails_by_status_iff`: **only refusals are treated as no success**;
* `undecided_counts_as_success`: a response with status 300.
-/

import AssetFetch.Proofs.Download.Wrapping
import AssetFetch.Proofs.Lookup

namespace AssetFetch

open AssetFetch.Text

/-- Surroundings in which neither the files nor the follower fail as a lookup or a download does. -/
structure Surroundings.AreApart (surroundings : Surroundings) : Prop where
  refused : ∀ writes action failure,
    surroundings.refusals.of writes action = some failure → failure.isSystem = true
  called : ∀ number failure,
    surroundings.follow number = .error failure → failure.isFetch = false

namespace Download

variable {surroundings : Surroundings} {scene : Scene} {tree : FileTree} {job : Download}
  {downloader : Downloader} {watch : Watch} {file destination : Path} {failure : Failure}
  {response : Response} {body : LooseText} {total : Nat}

/-! ### Responses that are no refusals -/

section Accepted

theorem ne_refusedBy_of_not_fetch (unlike : failure.isFetch = false) :
    failure ≠ job.refusedBy response body := by
  rintro rfl
  cases unlike

/-- A failure with another one behind it is told from a refused request. -/
theorem failedTo_ne_refusedBy {text : String} :
    job.failedTo text failure ≠ job.refusedBy response body :=
  fun same => Option.some_ne_none failure (Failure.fetch.inj same).2

/-- An operation on files does not fail as a lookup or a download does. -/
theorem failsWith_file (apart : surroundings.AreApart) (action : FileAction) :
    surroundings.FailsWith (fun failure => failure.isFetch = false)
      (.attempt (perform (.file action))) := by
  refine .file fun scene failure failed => ?_
  rcases Surroundings.isOfFile_of_error failed with refused | ofFile
  · have system := apart.refused _ _ _ refused
    cases failure with
    | fetch fault cause => cases system
    | _ => rfl
  · cases failure with
    | fetch fault cause => cases ofFile
    | _ => rfl

theorem failsWith_setWished (apart : surroundings.AreApart) :
    surroundings.FailsWith (fun failure => failure.isFetch = false) (job.setWished file) := by
  unfold setWished
  cases job.mode.value? with
  | none => exact .pure _
  | some mode => exact failsWith_file apart _

theorem failsWith_notify (apart : surroundings.AreApart) (read : Nat) (tracker : PercentTracker) :
    surroundings.FailsWith (fun failure => failure.isFetch = false)
      (notify watch read total tracker) := by
  cases watch with
  | nobody => exact .pure _
  | counts =>
    refine .bind (fun scene failure later failed => ?_) fun _ => .pure _
    exact apart.called _ _ (congrArg Prod.fst failed)
  | percents =>
    unfold notify
    cases tracker.step read total with
    | mk report next =>
      cases report with
      | none => exact .pure _
      | some report => exact .bind (.ofProgram _) fun _ => .pure _

/-- A piece that cannot be unpacked is damaged. -/
theorem not_isFetch_of_unpack_error {stream : Option Gzip.Stream} {piece : Bytes}
    (damaged : unpack stream piece = .error failure) : failure.isFetch = false := by
  unfold unpack at damaged
  split at damaged
  · cases damaged
  · split at damaged
    · cases damaged
      rfl
    · cases damaged

theorem failsWith_writePiece (apart : surroundings.AreApart) (standing : Standing)
    (piece : Bytes) :
    surroundings.FailsWith (fun failure => failure.isFetch = false)
      (writePiece watch file total standing piece) :=
  .bind (.ofExcept fun _ => not_isFetch_of_unpack_error) fun _ =>
    .bind (failsWith_file apart _) fun _ => .bind (failsWith_notify apart _ _) fun _ => .pure _

theorem failsWith_writePieces (apart : surroundings.AreApart)
    (arrivals : List (Except Failure Bytes))
    (foreign : ∀ failure, .error failure ∈ arrivals → failure.isFetch = false)
    (standing : Standing) :
    surroundings.FailsWith (· ≠ job.refusedBy response body)
      (writePieces job watch file total arrivals standing) := by
  induction arrivals generalizing standing with
  | nil => exact .pure _
  | cons arrival arrivals ih =>
    have others : ∀ failure, .error failure ∈ arrivals → failure.isFetch = false :=
      fun failure member => foreign failure (List.mem_cons_of_mem arrival member)
    cases arrival with
    | error failure => exact .throw (ne_refusedBy_of_not_fetch (foreign _ List.mem_cons_self))
    | ok piece =>
      rw [writePieces_cons]
      refine .bind (.ofProgram _) fun stop => .ite (fun _ => ?_) fun _ =>
        .ite (fun _ => ih others standing) fun _ => ?_
      · exact .bind (.log _ _ _) fun _ => .throw nofun
      · exact .bind ((failsWith_writePiece apart standing piece).mono fun _ =>
          ne_refusedBy_of_not_fetch) fun next => ih others next

/-- **Writing a body** never fails as a refused request does. -/
theorem failsWith_fill (apart : surroundings.AreApart) {arrivals : List (Except Failure Bytes)}
    (foreign : ∀ failure, .error failure ∈ arrivals → failure.isFetch = false) :
    surroundings.FailsWith (· ≠ job.refusedBy response body)
      (fill job watch file total arrivals) := by
  have unlike : ∀ {action : Action Unit},
      surroundings.FailsWith (fun failure => failure.isFetch = false) action →
      surroundings.FailsWith (· ≠ job.refusedBy response body) action := fun fails =>
    fails.mono fun _ => ne_refusedBy_of_not_fetch
  have concludes : ∀ standing, surroundings.FailsWith (· ≠ job.refusedBy response body)
      (conclude job watch file total standing) := by
    intro standing
    have persists : surroundings.FailsWith (fun failure => failure.isFetch = false)
        (persist file) := .bind (failsWith_file apart _) fun _ => failsWith_file apart _
    refine .ite (fun _ => .throw nofun) fun _ => .ite (fun _ => ?_) fun _ => unlike persists
    exact unlike (.bind (.bind (failsWith_notify apart _ _) fun _ => .pure _) fun _ => persists)
  have writes : surroundings.FailsWith (· ≠ job.refusedBy response body)
      (writeBody job watch file total arrivals) := by
    rw [writeBody_eq]
    exact .bind (unlike (failsWith_setWished apart)) fun _ =>
      .bind (failsWith_writePieces apart _ foreign _) concludes
  exact .orElse (.bind (unlike (failsWith_file apart _)) fun _ =>
    .whatever writes (unlike (failsWith_file apart _))) fun failure unlike =>
      failsWith_explain_of failedTo_ne_refusedBy fun _ => unlike

theorem failsWith_settle_of_unlike (apart : surroundings.AreApart) :
    surroundings.FailsWith (· ≠ job.refusedBy response body) (settle job file destination) := by
  refine .orElse (failsWith_file apart _) fun failure unlike =>
    .ite (fun _ => .bind (.log _ _ _) fun _ => ?_) fun _ =>
      .throw (ne_refusedBy_of_not_fetch unlike)
  exact .throw failedTo_ne_refusedBy

/-- **A response that is no refusal** never makes a delivery fail as a refused request does. -/
theorem attempt_deliver_ne_refusedBy (apart : surroundings.AreApart)
    (first : surroundings.script.head? = some (.ok response))
    (accepted : response.isRefusal = false)
    (foreign : response.IsForeign) :
    (surroundings.attempt (deliver job downloader watch file destination) (.start tree)).1
      ≠ .error (job.refusedBy response body) := by
  have receives : surroundings.FailsWith (· ≠ job.refusedBy response body)
      (receive job watch file downloader (.ok response)) := by
    rw [receive, accepted, if_neg Bool.false_ne_true]
    refine .whatever (.bind (.ofExcept fun failure unknown => ?_) fun _ => .bind (.log _ _ _)
      fun _ => failsWith_fill apart (foreign _)) (.ofProgram _)
    rcases cases_of_contentLength_error unknown with rfl | ⟨fault, rfl⟩ | ⟨kind, member, rfl⟩
    all_goals
      intro same
      cases same
  intro failed
  rw [deliver, Surroundings.attempt_bind, attempt_fetch_start, first, Option.getD_some] at failed
  split at failed
  · exact failsWith_settle_of_unlike apart _ _ _ (Prod.ext failed rfl) rfl
  · rename_i broken
    cases failed
    exact receives _ _ _ broken rfl

end Accepted

/-! ### Refusals -/

section Refused

/-- A refused request keeps what holds before. -/
theorem keeps_fetch_of_refusal {holds : FileTree → Prop}
    (first : surroundings.script.head? = some (.ok response)) (refusal : response.isRefusal = true)
    (here : holds tree) :
    surroundings.Keeps holds (fetch job downloader watch file) (.start tree) := by
  have quiet : (Action.ofProgram (send (job.request downloader)).outcome).Only Effect.IsQuiet :=
    .ofProgram (.perform trivial)
  rw [fetch_eq]
  refine (keeps_of_quiet quiet here).bind fun result later ran kept => ?_
  obtain ⟨same, rfl⟩ := Prod.mk.inj ((attempt_send_of_first first _).symm.trans ran)
  obtain rfl := Except.ok.inj same
  refine keeps_of_quiet (.whatever ?_ (.ofProgram (.perform trivial))) kept
  rw [if_pos refusal]
  exact (only_refused job response).quiet

/-- Removing a file creates nothing. -/
theorem keeps_clear_of_closed
    (here : ∀ place, tree.get? place = none → scene.tree.get? place = none) :
    surroundings.Keeps (fun now => ∀ place, tree.get? place = none → now.get? place = none)
      (clear file) scene := by
  have removed : ∀ place, tree.get? place = none →
      (surroundings.onFile scene (.remove file)).2.get? place = none := by
    intro place absent
    rcases surroundings.onFile_done_or_failed scene (.remove file) with
      ⟨_, after, done⟩ | ⟨_, failed⟩
    · obtain ⟨location, content, mode, _, held, rfl⟩ :=
        FileTree.remove_eq_ok_iff.mp (onFile_remove_eq_ok_iff.mp done).2
      have free : location.isGiven = false :=
        FileTree.not_given_of_ne_directory (by rw [held]; simp)
      rw [done]
      by_cases same : place = location
      · rw [same, FileTree.get?_erase_self free]
      · rw [FileTree.get?_erase_of_ne same]
        exact here place absent
    · rw [failed]
      exact here place absent
  have kept : surroundings.Keeps (fun now => ∀ place, tree.get? place = none →
      now.get? place = none) (Files.remove file) scene := .perform here removed
  refine Surroundings.Keeps.orElse (kept.orElse ?_) ?_
  · exact fun _ _ _ there => keeps_of_quiet (.ite (.pure _) (.throw _)) there
  · exact fun _ _ _ there => keeps_of_quiet (.ite (only_log ..).quiet (.throw _)) there

/-- A download that fails as it should with a status that is no success: it tells of the status, the
body and the headers, creates nothing at any step, and leaves the destination as it is. -/
structure Rejects (surroundings : Surroundings) (downloader : Downloader) (job : Download)
    (watch : Watch) (tree : FileTree) (destination : Path) (response : Response)
    (body : LooseText) : Prop where
  outcome : (surroundings.attempt (download downloader job watch) (.start tree)).1
    = .error (.ofFetch (.download ⟨job.url, job.destination.text, .int response.status, none,
        .text body, response.headers.toValue⟩))
  uncreated : surroundings.Keeps
    (fun now => ∀ place, tree.get? place = none → now.get? place = none)
    (download downloader job watch) (.start tree)
  unchanged : surroundings.Keeps (fun now => now.status destination = tree.status destination)
    (download downloader job watch) (.start tree)

/-- **A refused download** fails so. -/
theorem rejects_of_refusal (path : job.destination.path = .ok destination)
    (fresh : temporaryPath destination surroundings.name = .ok file)
    (beside : FileTree.Beside file destination) (taken : surroundings.TakesRemoval file)
    (apart : surroundings.AreApart) (first : surroundings.script.head? = some (.ok response))
    (refusal : response.isRefusal = true) (text : response.text = .ok body) :
    Rejects surroundings downloader job watch tree destination response body := by
  have fetched : surroundings.attempt (fetch job downloader watch file) (.start tree)
      = (.error (job.refusedBy response body), sentOnly tree 1) := by
    have read : surroundings.attempt (.ofExcept response.text) (sentOnly tree 1)
        = (.ok body, sentOnly tree 1) := Prod.ext text rfl
    rw [attempt_fetch_start, first, Option.getD_some, attempt_receive_of_refusal refusal, refused,
      Surroundings.attempt_bind_of_ok read]
    rfl
  have outcome : (surroundings.attempt (download downloader job watch) (.start tree)).1
      = .error (job.refusedBy response body) := by
    refine (attempt_download_eq_error_iff_deliver path fresh taken fun failure refused =>
      apart.refused 0 (.remove file) failure refused).mpr ?_
    rw [deliver, Surroundings.attempt_bind, fetched]
  refine ⟨outcome, ?_, ?_⟩
  · refine keeps_download path fresh (fun _ absent => absent) (.orElse (.bind ?_ ?_) ?_)
    · exact keeps_fetch_of_refusal first refusal fun _ absent => absent
    · intro done later succeeded
      rw [fetched] at succeeded
      cases succeeded
    · intro failure later _ here
      exact (keeps_clear_of_closed here).bind fun _ _ _ there => .done _ there
  · refine (keeps_download_of_error path fresh (Prod.ext outcome rfl)).mono fun now same => ?_
    exact same.status_beside beside

end Refused

end Download

/-! ### Statuses -/

section Statuses

variable {surroundings : Surroundings} {tree : FileTree} {client : Client} {tag : Value}
  {downloader : Downloader} {job : Download} {watch : Watch} {response : Response}

/-- A response that is no refusal never makes a lookup fail as a refused one does. -/
theorem Lookup.failsWith_answered (foreign : response.IsForeign) (status : Value) :
    surroundings.FailsWith (· ≠ .ofFetch (.lookup tag status)) (answered tag response) := by
  have apart : ∀ failure : Failure, failure.isFetch = false →
      failure ≠ .ofFetch (.lookup tag status) := by
    rintro _ unlike rfl
    cases unlike
  have tells : ∀ failure, surroundings.FailsWith (· ≠ .ofFetch (.lookup tag status))
      (invalid tag response failure) := fun _ =>
    .bind (.ofExcept fun failure unread => apart failure (foreign.text unread)) fun _ =>
      .bind (.log _ _ _) fun _ => .throw nofun
  unfold answered
  split
  · rename_i failure undescribed
    refine .ite (fun _ => tells failure) fun unread => .throw (apart failure ?_)
    -- what is not misread has not been read
    unfold describedBy at undescribed
    cases data : response.data with
    | error other =>
      rw [data] at undescribed
      cases undescribed
      exact foreign.data data
    | ok value =>
      rw [data] at undescribed
      exact absurd (Release.isMisreading_of_ofValue_error undescribed) unread
  · exact .bind (.log _ _ _) fun _ => .pure _

/-- A lookup fails with the tag and the status exactly if the response is a refusal that can be
read. -/
theorem attempt_lookup_refused_iff {base : LooseText} (typed : client.apiBase = .text base)
    (first : surroundings.script.head? = some (.ok response)) (foreign : response.IsForeign) :
    (surroundings.attempt (client.lookup tag) (.start tree)).1
        = .error (.ofFetch (.lookup tag (.int response.status)))
      ↔ (400 ≤ response.status ∧ response.status < 600) ∧ ∃ body, response.text = .ok body := by
  obtain ⟨url, address⟩ : ∃ url, releaseUrl tag client.apiBase client.repository = .ok url := by
    rw [typed]
    exact ⟨_, rfl⟩
  have replied : surroundings.script[(Scene.start tree).sent]? = some (.ok response) := by
    rw [← first, List.head?_eq_getElem?]
    rfl
  rw [Surroundings.attempt_lookup address, replied, Option.getD_some, Lookup.receive,
    ← Response.isRefusal_iff]
  by_cases refusal : response.isRefusal = true
  · rw [if_pos refusal, Surroundings.attempt_refused, and_iff_right refusal]
    cases read : response.text with
    | ok body => exact iff_of_true rfl ⟨body, rfl⟩
    | error failure =>
      refine iff_of_false (fun failed => ?_) (not_exists.mpr fun _ same => by cases same)
      cases failed
      cases foreign.text read
  · rw [if_neg refusal]
    refine iff_of_false (fun failed => ?_) fun both => refusal both.1
    exact Lookup.failsWith_answered foreign _ _ _ _ (Prod.ext failed rfl) rfl

/-- A download fails with the status, the body and the headers exactly if the response is a refusal
that can be read, and the removal of the new file hides nothing. -/
theorem rejects_iff {destination file : Path} (path : job.destination.path = .ok destination)
    (fresh : temporaryPath destination surroundings.name = .ok file)
    (beside : FileTree.Beside file destination) (apart : surroundings.AreApart)
    (first : surroundings.script.head? = some (.ok response)) (foreign : response.IsForeign) :
    (∃ body, response.text = .ok body
        ∧ Download.Rejects surroundings downloader job watch tree destination response body)
      ↔ (400 ≤ response.status ∧ response.status < 600) ∧ (∃ body, response.text = .ok body)
        ∧ surroundings.TakesRemoval file := by
  constructor
  · rintro ⟨body, read, rejects⟩
    have taken : surroundings.TakesRemoval file := by
      by_contra untaken
      cases (Download.isOfFile_of_download_error path fresh untaken rejects.outcome).1
    refine ⟨by_contra fun outside => ?_, ⟨body, read⟩, taken⟩
    have accepted := Bool.eq_false_iff.mpr (mt Response.isRefusal_iff.mp outside)
    have delivered := (Download.attempt_download_eq_error_iff_deliver path fresh taken
      fun failure refused => apart.refused 0 (.remove file) failure refused).mp rejects.outcome
    exact Download.attempt_deliver_ne_refusedBy apart first accepted foreign delivered
  · rintro ⟨refusal, ⟨body, read⟩, taken⟩
    exact ⟨body, read, Download.rejects_of_refusal path fresh beside taken apart first
      (Response.isRefusal_iff.mpr refusal) read⟩

/-- **Only refusals are treated as no success.** A lookup fails with the tag and the status exactly
if the status is from 400 to 599 and the text of the response can be read: a status below 200, from
300 to 399 or from 600 on counts as success. A download fails with the status, that text and the
headers and without a trace exactly if that is so, and the system reports what comes of the removal
of the new file. -/
theorem fails_by_status_iff {base text : LooseText} (typed : client.apiBase = .text base)
    (isToken : IsToken surroundings.name) (destined : job.destination = .named text)
    (named : (Path.ofText text).name ≠ "") (apart : surroundings.AreApart)
    (first : surroundings.script.head? = some (.ok response)) (foreign : response.IsForeign) :
    ((surroundings.attempt (client.lookup tag) (.start tree)).1
        = .error (.ofFetch (.lookup tag (.int response.status)))
      ↔ (400 ≤ response.status ∧ response.status < 600) ∧ ∃ body, response.text = .ok body)
      ∧ ((∃ body, response.text = .ok body ∧ Download.Rejects surroundings downloader job watch
            tree (Path.ofText text) response body)
        ↔ (400 ≤ response.status ∧ response.status < 600) ∧ (∃ body, response.text = .ok body)
          ∧ surroundings.TakesRemoval ((Path.ofText text).fresh surroundings.name)) := by
  have path : job.destination.path = .ok (Path.ofText text) := by rw [destined]; rfl
  exact ⟨attempt_lookup_refused_iff typed first foreign, rejects_iff path
    (temporaryPath_eq named isToken) (fresh_beside isToken _) apart first foreign⟩

/-- A response that offers several places and names none. -/
def undecidedResponse : Response :=
  ⟨300, [("content-length", .text "2")], .whole (encode "\x7b\x7d"),
    .utf8 Json.Depths.usual.read⟩

/-- It comes to every request. -/
def undecided : Surroundings := .calm "0123456789" [.ok undecidedResponse]

/-- Neither the lookup nor the download fails by that status. -/
theorem fails_by_status_iff_undecided :
    (Client.standard none).apiBase = .text defaultApiBase ∧ IsToken undecided.name
      ∧ Download.threeBytes.destination = .named "asset.bin" ∧ (Path.ofText "asset.bin").name ≠ ""
      ∧ undecided.AreApart ∧ undecided.script.head? = some (.ok undecidedResponse)
      ∧ undecidedResponse.IsForeign ∧ undecidedResponse.text = .ok "\x7b\x7d"
      ∧ (undecided.attempt ((Client.standard none).lookup (.text "v1")) (.start .empty)).1
        ≠ .error (.ofFetch (.lookup (.text "v1") (.int 300)))
      ∧ ¬ Download.Rejects undecided .standard Download.threeBytes .nobody .empty
        (Path.ofText "asset.bin") undecidedResponse "\x7b\x7d" := by
  have apart : undecided.AreApart := by
    refine ⟨fun writes action failure refused => ?_, nofun⟩
    cases action <;> cases refused
  have read : undecidedResponse.text = .ok "\x7b\x7d" :=
    congrArg (fun text => Except.ok (LooseText.ofString text)) (decodeLossy_encode _)
  have foreign : undecidedResponse.IsForeign := by
    simp [Response.IsForeign, Response.arrivals, undecidedResponse]
  have both : ((undecided.attempt ((Client.standard none).lookup (.text "v1")) (.start .empty)).1
        = .error (.ofFetch (.lookup (.text "v1") (.int undecidedResponse.status))) ↔ _)
      ∧ ((∃ body, undecidedResponse.text = .ok body ∧ Download.Rejects undecided .standard
          Download.threeBytes .nobody .empty (Path.ofText "asset.bin") undecidedResponse body)
        ↔ _) :=
    fails_by_status_iff rfl (by decide) rfl (by decide +kernel) apart rfl foreign
  obtain ⟨lookup, download⟩ := both
  exact ⟨rfl, by decide, rfl, by decide +kernel, apart, rfl, foreign, read,
    fun failed => absurd (lookup.mp failed).1 (by decide),
    fun rejects => absurd (download.mp ⟨_, read, rejects⟩).1 (by decide)⟩

/-- **A response with status 300 counts as success**: the lookup gives a release, and the download
creates the destination. -/
theorem undecided_counts_as_success :
    (undecided.attempt ((Client.standard none).lookup (.text "v1")) (.start .empty)).1.isOk = true
      ∧ (undecided.attempt (download .standard Download.threeBytes .nobody) (.start .empty)).1.isOk
        = true
      ∧ (undecided.attempt (download .standard Download.threeBytes .nobody)
          (.start .empty)).2.tree.status (Path.ofText "asset.bin")
        = .ok (.file (encode "\x7b\x7d") 0o644) := by
  decide +kernel

end Statuses

end AssetFetch
