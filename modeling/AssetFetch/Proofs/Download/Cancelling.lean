/-
**When a wish to stop is honoured.**

A download looks for a wish to stop when something of the body arrives, and at no other time.

* `Watch.callsOf`: how often the follower is called for what has arrived;
* `ends_writePieces`: the writing of a body ends with the wish exactly if something arrives after
  it;
* `ReachesWriting`, `exists_reachesWriting`: a download that ends normally or is cancelled has got
  to the writing of a body into a file that was not there;
* `cancellation_honoured_iff`: **a wish to stop is honoured exactly if** something of the body
  arrives after it; otherwise the download goes on to its end;
* `late_cancellation_is_ignored`: a wish made when the last piece is reported.
-/

import AssetFetch.Proofs.Download.Told
import AssetFetch.Proofs.Statuses
import AssetFetch.Proofs.Wishes

namespace AssetFetch

/-- Whether a failure is that of a cancelled download. -/
def Failure.isCancellation : Failure → Bool
  | .fetch (.cancelled _ _) _ => true
  | _ => false

theorem Failure.not_isCancellation_of_not_fetch {failure : Failure}
    (unlike : failure.isFetch = false) : failure.isCancellation = false := by
  cases failure with
  | fetch fault cause => cases unlike
  | _ => rfl

/-- A world whose operations on files and whose follower do not fail as a lookup or a download does.
-/
structure World.IsApart (world : World) : Prop where
  refused : ∀ writes action failure,
    (Refusals.ofFaults world.faults).of writes action = some failure → failure.isSystem = true
  called : ∀ number failure, world.follower.failAt = some (number, failure) →
    failure.isFetch = false

/-- How often a follower is called for what has arrived. -/
def Watch.callsOf (watch : Watch) (arrivals : List (Except Failure Bytes)) : Nat :=
  match watch with
  | .counts => arrivals.countP fun arrival =>
    match arrival with
    | .ok piece => !piece.isEmpty
    | .error _ => false
  | _ => 0

namespace Download

variable {surroundings : Surroundings} {scene now : Scene} {tree : FileTree} {job : Download}
  {downloader : Downloader} {watch : Watch} {file destination : Path} {total call : Nat}
  {response : Response} {reason : Option Failure}

/-- The failure of a cancelled download. -/
def cancellation (job : Download) : Failure :=
  .ofFetch (.cancelled job.url job.destination.text)

/-- Something of a body arrives after a wish to stop that some calls of the follower come before. -/
def Arrives (watch : Watch) (calls : Nat) (arrivals : List (Except Failure Bytes)) : Prop :=
  ∃ early arrival late, arrivals = early ++ arrival :: late ∧ calls ≤ watch.callsOf early

/-! ### The writing of a body -/

section Writing

variable {calls : Nat} {arrival : Except Failure Bytes} {early rest : List (Except Failure Bytes)}

theorem callsOf_nil : watch.callsOf [] = 0 := by
  cases watch <;> rfl

theorem callsOf_cons :
    watch.callsOf (arrival :: early) = watch.callsOf [arrival] + watch.callsOf early := by
  cases watch with
  | counts =>
    show List.countP _ ([arrival] ++ early) = _
    exact List.countP_append
  | _ => rfl

/-- A piece with bytes is told of as any count is. -/
theorem callsOf_filled {piece : Bytes} (filled : piece.isEmpty = false) (read total : Nat) :
    watch.callsOf [.ok piece] = (watch.calls total [read]).length := by
  cases watch with
  | counts => exact List.countP_cons_of_pos (by simp [filled])
  | _ => rfl

theorem callsOf_empty : watch.callsOf [.ok []] = 0 := by
  cases watch <;> rfl

theorem arrives_cons_iff :
    Arrives watch calls (arrival :: rest)
      ↔ calls = 0 ∨ Arrives watch (calls - watch.callsOf [arrival]) rest := by
  constructor
  · rintro ⟨early, other, late, split, reached⟩
    cases early with
    | nil =>
      rw [callsOf_nil] at reached
      exact .inl (Nat.le_zero.mp reached)
    | cons first early =>
      obtain ⟨rfl, rfl⟩ := List.cons.inj split
      rw [callsOf_cons] at reached
      exact .inr ⟨early, other, late, rfl, by omega⟩
  · rintro (rfl | ⟨early, other, late, rfl, reached⟩)
    · exact ⟨[], arrival, rest, rfl, Nat.zero_le _⟩
    · refine ⟨arrival :: early, other, late, rfl, ?_⟩
      rw [callsOf_cons]
      omega

/-- A piece with bytes that is written is told of as any count is. -/
theorem calls_of_writePiece {standing next : Standing} {piece : Bytes}
    (filled : piece.isEmpty = false)
    (written : surroundings.attempt (writePiece watch file total standing piece) scene
      = (.ok next, now)) :
    now.calls.length = scene.calls.length + watch.callsOf [.ok piece] := by
  have heard := congrArg Prod.fst (heard_of_writePiece_ok written).1
  rw [callsOf_filled filled (standing.read + piece.length) total]
  exact (congrArg List.length heard).trans List.length_append

/-- **A body is written to its end**, unless something of it arrives after the wish to stop. -/
theorem ends_writePieces (apart : surroundings.AreApart) {standing : Standing}
    {arrivals : List (Except Failure Bytes)}
    (fine : ∀ failure, .error failure ∈ arrivals → failure.isFetch = false)
    (stops : surroundings.StopsFrom call
      (writePieces job watch file total arrivals standing).outcome scene)
    (otherwise : ∀ failure ∈ reason, ¬ failure.isCancellation = false)
    (ends : surroundings.Ends (writePieces job watch file total arrivals standing) scene reason) :
    (reason = some job.cancellation ∧ Arrives watch (call - scene.calls.length) arrivals)
      ∨ (reason = none ∧ ¬ Arrives watch (call - scene.calls.length) arrivals) := by
  induction arrivals generalizing standing scene with
  | nil =>
    refine .inr ⟨ends, ?_⟩
    rintro ⟨early, arrival, late, split, _⟩
    exact absurd split (by simp)
  | cons arrival rest ih =>
    have others : ∀ failure, .error failure ∈ rest → failure.isFetch = false :=
      fun failure member => fine failure (List.mem_cons_of_mem arrival member)
    cases arrival with
    | error failure =>
      have unlike := Failure.not_isCancellation_of_not_fetch (fine failure List.mem_cons_self)
      exact absurd unlike (otherwise failure ends)
    | ok piece =>
      rw [writePieces_cons] at stops ends
      have here := (Surroundings.stopsFrom_left stops).1 rfl
      replace stops := Surroundings.stopsFrom_right stops (attempt_isCancelled scene)
      rw [Surroundings.ends_bind_of_ok (attempt_isCancelled scene)] at ends
      rw [arrives_cons_iff]
      by_cases wished : surroundings.stop scene.looks = true
      · rw [if_pos wished] at ends
        exact .inl ⟨ends, .inl (Nat.sub_eq_zero_of_le (here.mp wished))⟩
      · have awaited : ¬ call - scene.calls.length = 0 := by
          have unwished := mt here.mpr wished
          omega
        rw [if_neg wished] at ends stops
        rw [or_iff_right awaited]
        by_cases filled : piece.isEmpty = true
        · rw [if_pos filled] at ends stops
          rw [List.isEmpty_iff.mp filled, callsOf_empty]
          have later := ih others stops ends
          exact later
        · rw [if_neg filled] at ends stops
          obtain ⟨next, after, written, ended⟩ := Surroundings.ends_of_bind
            ((failsWith_writePiece apart standing piece).mono fun _ =>
              Failure.not_isCancellation_of_not_fetch) otherwise ends
          have calls := calls_of_writePiece (by simpa using filled) written
          have later := ih others (Surroundings.stopsFrom_right stops written) ended
          rwa [calls, Nat.sub_add_eq] at later

end Writing

/-! ### The way to the writing -/

section Reaching

variable {arrivals : List (Except Failure Bytes)}

/-- The writing of what arrives into a file that was not there, with its looks and its end. -/
def ReachesWriting (surroundings : Surroundings) (call : Nat) (job : Download) (watch : Watch)
    (tree : FileTree) (file : Path) (arrivals : List (Except Failure Bytes))
    (reason : Option Failure) : Prop :=
  ∃ location total ready, tree.Vacant file location ∧ ready.calls = []
    ∧ surroundings.StopsFrom call (writePieces job watch file total arrivals (.start job)).outcome
        ready
    ∧ surroundings.Ends (writePieces job watch file total arrivals (.start job)) ready reason

/-- The end of the writing does not fail as a cancelled download does. -/
theorem failsWith_conclude (apart : surroundings.AreApart) (standing : Standing) :
    surroundings.FailsWith (fun failure => failure.isCancellation = false)
      (conclude job watch file total standing) := by
  have persists : surroundings.FailsWith (fun failure => failure.isCancellation = false)
      (persist file) :=
    (failsWith_file apart _).mono (fun _ => Failure.not_isCancellation_of_not_fetch) |>.bind
      fun _ => (failsWith_file apart _).mono fun _ => Failure.not_isCancellation_of_not_fetch
  have told : surroundings.FailsWith (fun failure => failure.isCancellation = false)
      (notify watch 0 0 standing.tracker) :=
    (failsWith_notify apart _ _).mono fun _ => Failure.not_isCancellation_of_not_fetch
  refine .ite (fun _ => .throw rfl) fun _ => .ite (fun _ => ?_) fun _ => persists
  exact .bind (.bind told fun _ => .pure _) fun _ => persists

/-- An action before the close of a file ends as the two do, unless the close fails. -/
theorem ends_of_closing (apart : surroundings.AreApart) {action : Action Unit}
    (otherwise : ∀ failure ∈ reason, ¬ failure.isCancellation = false)
    (ends : surroundings.Ends (action.whatever (Files.close file)) scene reason) :
    surroundings.Ends action scene reason := by
  unfold Surroundings.Ends at ends ⊢
  rw [attempt_whatever_closing] at ends
  cases unclosed : surroundings.refusals.close with
  | none => rwa [unclosed] at ends
  | some failure =>
    rw [unclosed] at ends
    have system := apart.refused 0 (.close file) failure unclosed
    refine absurd ?_ (otherwise failure ends)
    cases failure with
    | fetch fault cause => cases system
    | _ => rfl

/-- What a body is written into was not there before. -/
theorem reachesWriting_of_fill (apart : surroundings.AreApart)
    (stops : surroundings.StopsFrom call (fill job watch file total arrivals).outcome
      (sentOnly tree 1))
    (otherwise : ∀ failure ∈ reason, ¬ failure.isCancellation = false)
    (ends : surroundings.Ends (fill job watch file total arrivals) (sentOnly tree 1) reason) :
    ReachesWriting surroundings call job watch tree file arrivals reason := by
  have written : surroundings.Ends (writeAll job watch file total arrivals) (sentOnly tree 1)
      reason := by
    refine Surroundings.ends_of_orElse
      (fun failure now => ⟨_, congrArg Prod.fst attempt_explain, ?_⟩)
      otherwise ends
    split
    · exact .inl rfl
    · exact .inr rfl
  replace stops := Surroundings.stopsFrom_orElse stops
  rw [writeAll] at stops written
  obtain ⟨_, created, made, written⟩ := Surroundings.ends_of_bind
    ((failsWith_file apart _).mono fun _ => Failure.not_isCancellation_of_not_fetch)
    otherwise written
  obtain ⟨_, wished, location, _, vacant, rfl⟩ := attempt_create_eq_ok_iff.mp made
  replace stops := Surroundings.stopsFrom_right stops made
  replace stops := Surroundings.stopsFrom_whatever stops
  replace written := ends_of_closing apart otherwise written
  rw [writeBody_eq] at stops written
  obtain ⟨_, ready, set, written⟩ := Surroundings.ends_of_bind
    ((failsWith_setWished apart).mono fun _ => Failure.not_isCancellation_of_not_fetch)
    otherwise written
  replace stops := Surroundings.stopsFrom_right stops set
  obtain ⟨_, rfl⟩ := (attempt_setWished_eq_ok_iff vacant rfl).mp set
  exact ⟨location, total, _, vacant, rfl, Surroundings.stopsFrom_left stops,
    Surroundings.ends_left_of_bind (failsWith_conclude apart) otherwise written⟩

/-- A refused request does not end as a cancelled download does. -/
theorem not_ends_refused (foreign : response.IsForeign)
    (otherwise : ∀ failure ∈ reason, ¬ failure.isCancellation = false) :
    ¬ surroundings.Ends (refused job response) scene reason := by
  intro ends
  obtain ⟨_, _, _, ends⟩ := Surroundings.ends_of_bind
    (.ofExcept fun _ unread => Failure.not_isCancellation_of_not_fetch (foreign.text unread))
    otherwise ends
  exact otherwise _ ends rfl

/-- A response leads to the writing of its body. -/
theorem reachesWriting_of_receive (apart : surroundings.AreApart)
    (fine : ∀ failure, .error failure ∈ response.arrivals downloader.pieceSize →
      failure.isFetch = false)
    (stops : surroundings.StopsFrom call (receive job watch file downloader (.ok response)).outcome
      (sentOnly tree 1))
    (otherwise : ∀ failure ∈ reason, ¬ failure.isCancellation = false)
    (ends : surroundings.Ends (receive job watch file downloader (.ok response)) (sentOnly tree 1)
      reason) :
    ReachesWriting surroundings call job watch tree file (response.arrivals downloader.pieceSize)
      reason := by
  rw [receive] at stops ends
  unfold Surroundings.Ends at ends
  rw [attempt_whatever_close] at ends
  replace stops := Surroundings.stopsFrom_whatever stops
  by_cases refusal : response.isRefusal = true
  · rw [if_pos refusal] at ends
    exact absurd ends (not_ends_refused (Response.isForeign_of_arrivals fine) otherwise)
  · rw [if_neg refusal] at ends stops
    obtain ⟨total, _, size, ends⟩ := Surroundings.ends_of_bind (.ofExcept fun failure unknown => by
      rcases cases_of_contentLength_error unknown with rfl | ⟨fault, rfl⟩ | ⟨kind, member, rfl⟩
      all_goals rfl) otherwise ends
    replace stops := Surroundings.stopsFrom_right stops size
    obtain rfl := congrArg Prod.snd size
    obtain ⟨_, _, logged, ends⟩ := Surroundings.ends_of_bind (.log _ _ _) otherwise ends
    replace stops := Surroundings.stopsFrom_right stops logged
    obtain rfl := congrArg Prod.snd logged
    exact reachesWriting_of_fill apart stops otherwise ends

/-- The parts after the writing do not fail as a cancelled download does. -/
theorem failsWith_settle_uncancelled (apart : surroundings.AreApart) :
    surroundings.FailsWith (fun failure => failure.isCancellation = false)
      (settle job file destination) := by
  refine .orElse (failsWith_file apart _) fun failure unlike =>
    .ite (fun _ => .bind (.log _ _ _) fun _ => .throw rfl) fun _ => ?_
  exact .throw (Failure.not_isCancellation_of_not_fetch unlike)

theorem failsWith_clear (apart : surroundings.AreApart) :
    surroundings.FailsWith (fun failure => failure.isCancellation = false) (clear file) := by
  have removes : surroundings.FailsWith (fun failure => failure.isFetch = false)
      (Files.removeIfPresent file) :=
    .orElse (failsWith_file apart _) fun failure unlike =>
      .ite (fun _ => .pure _) fun _ => .throw unlike
  refine removes.orElse fun failure unlike => .ite (fun _ => .log _ _ _) fun _ => ?_
  exact .throw (Failure.not_isCancellation_of_not_fetch unlike)

/-- A delivery leads to the writing of a body. -/
theorem reachesWriting_of_deliverOrClear (apart : surroundings.AreApart)
    (first : surroundings.script.head? = some (.ok response))
    (fine : ∀ failure, .error failure ∈ response.arrivals downloader.pieceSize →
      failure.isFetch = false)
    (stops : surroundings.StopsFrom call
      (deliverOrClear job downloader watch file destination).outcome (.start tree))
    (otherwise : ∀ failure ∈ reason, ¬ failure.isCancellation = false)
    (ends : surroundings.Ends (deliverOrClear job downloader watch file destination) (.start tree)
      reason) :
    ReachesWriting surroundings call job watch tree file (response.arrivals downloader.pieceSize)
      reason := by
  have delivered : surroundings.Ends (deliver job downloader watch file destination) (.start tree)
      reason := by
    refine Surroundings.ends_of_orElse (fun failure now => ?_) otherwise ends
    cases cleared : surroundings.attempt (clear file) now with
    | mk result after =>
      rw [Surroundings.attempt_bind, cleared]
      cases result with
      | ok done => exact ⟨failure, rfl, .inr rfl⟩
      | error other => exact ⟨other, rfl, .inl (failsWith_clear apart _ _ _ cleared)⟩
  have fetched := Surroundings.ends_left_of_bind
    (fun _ => failsWith_settle_uncancelled apart) otherwise delivered
  replace stops := Surroundings.stopsFrom_left (Surroundings.stopsFrom_orElse stops)
  have sent : surroundings.attempt (.ofProgram (send (job.request downloader)).outcome)
      (.start tree) = (.ok (.ok response), sentOnly tree 1) := attempt_send_of_first first _
  rw [fetch_eq] at fetched stops
  rw [Surroundings.ends_bind_of_ok sent] at fetched
  exact reachesWriting_of_receive apart fine (Surroundings.stopsFrom_right stops sent) otherwise
    fetched

theorem isCancellation_of_path_error {failure : Failure}
    (missing : job.destination.path = .error failure) : failure.isCancellation = false := by
  cases given : job.destination with
  | named text =>
    rw [given] at missing
    cases missing
  | blank =>
    rw [given] at missing
    cases missing
    rfl

theorem isCancellation_of_temporaryPath_error {suffix : String} {failure : Failure}
    (missing : temporaryPath destination suffix = .error failure) :
    failure.isCancellation = false := by
  unfold temporaryPath at missing
  split at missing
  · cases missing
    rfl
  · simp only at missing
    split at missing
    · cases missing
    · cases missing
      rfl

/-- **A download that ends normally or is cancelled** has got to the writing of a body into a file
that was not there. -/
theorem exists_reachesWriting (apart : surroundings.AreApart)
    (first : surroundings.script.head? = some (.ok response))
    (fine : ∀ failure, .error failure ∈ response.arrivals downloader.pieceSize →
      failure.isFetch = false)
    (stops : surroundings.StopsFrom call (download downloader job watch).outcome (.start tree))
    (otherwise : ∀ failure ∈ reason, ¬ failure.isCancellation = false)
    (ends : surroundings.Ends (download downloader job watch) (.start tree) reason) :
    ∃ destination file, job.destination.path = .ok destination
      ∧ temporaryPath destination surroundings.name = .ok file
      ∧ ReachesWriting surroundings call job watch tree file
          (response.arrivals downloader.pieceSize) reason := by
  rw [download_eq] at stops ends
  obtain ⟨destination, _, path, ends⟩ := Surroundings.ends_of_bind
    (.ofExcept fun _ => isCancellation_of_path_error) otherwise ends
  replace stops := Surroundings.stopsFrom_right stops path
  obtain ⟨found, rfl⟩ := Prod.mk.inj path
  rw [Surroundings.ends_bind_of_ok (attempt_randomName _)] at ends
  replace stops := Surroundings.stopsFrom_right stops (attempt_randomName _)
  obtain ⟨file, _, fresh, ends⟩ := Surroundings.ends_of_bind
    (.ofExcept fun _ => isCancellation_of_temporaryPath_error) otherwise ends
  replace stops := Surroundings.stopsFrom_right stops fresh
  obtain ⟨chosen, rfl⟩ := Prod.mk.inj fresh
  replace ends := Surroundings.ends_left_of_bind
    (fun _ => .bind (.log _ _ _) fun _ => .pure _) otherwise ends
  exact ⟨destination, file, found, chosen, reachesWriting_of_deliverOrClear apart first fine
    (Surroundings.stopsFrom_left stops) otherwise ends⟩

end Reaching

/-! ### In a world -/

section Honouring

variable {world : World}

/-- What a cancelled download leaves is what was there before. -/
theorem tree_of_cancelled {later : Scene} {failure : Failure} {location : Location}
    (path : job.destination.path = .ok destination)
    (fresh : temporaryPath destination surroundings.name = .ok file)
    (vacant : tree.Vacant file location) (kept : surroundings.refusals.remove = none)
    (failed : surroundings.attempt (download downloader job watch) (.start tree)
      = (.error failure, later)) : later.tree = tree := by
  have absent : tree.remove file = .error .notFound := by
    simp [FileTree.remove, vacant.1, vacant.2]
  rw [tree_of_failed_download path fresh kept failed, absent]

/-- **A wish to stop is honoured exactly if something of the body arrives after it.** It is there
from the start or made at a call of the follower, and the download meets no other failure. Where it
is honoured, the download is cancelled and all files are as before; otherwise it goes on to its end.
-/
theorem cancellation_honoured_iff (unlogged : world.logFile = none)
    (untold : world.follower.calls = []) (wishes : world.WishesFrom call) (apart : world.IsApart)
    (kept : world.faults.remove = none) (first : world.script.head? = some (.ok response))
    (fine : ∀ failure, .error failure ∈ response.arrivals downloader.pieceSize →
      failure.isFetch = false)
    (alone : ∀ failure, (world.attempt (download downloader job watch)).1 = .error failure →
      failure.isCancellation = true) :
    ((world.attempt (download downloader job watch)).1 = .error job.cancellation
        ∧ (world.attempt (download downloader job watch)).2.tree = world.tree
      ↔ Arrives watch call (response.arrivals downloader.pieceSize))
    ∧ ((world.attempt (download downloader job watch)).1.isOk = true
      ↔ ¬ Arrives watch call (response.arrivals downloader.pieceSize)) := by
  obtain ⟨surroundings, scene, script, refusals, follows, stops, same, tree⟩ :=
    exists_stopping only_download unlogged untold wishes
  have apartly : surroundings.AreApart := {
    refused := fun writes action failure refused =>
      apart.refused writes action failure (refusals ▸ refused)
    called := fun number failure failed =>
      let ⟨number, fails⟩ := follows number failure failed
      apart.called number failure fails }
  rw [← script] at first
  cases ended : (world.attempt (download downloader job watch)).1 with
  | ok result =>
    have otherwise : ∀ other ∈ (none : Option Failure), ¬ other.isCancellation = false :=
      fun other member => absurd member (Option.not_mem_none other)
    have ends : surroundings.Ends (download downloader job watch) (.start world.tree) none := by
      rw [Surroundings.ends_none_iff, same, ended]
      rfl
    obtain ⟨destination, file, path, fresh, location, total, ready, vacant, called, looks, wrote⟩ :=
      exists_reachesWriting apartly first fine stops otherwise ends
    rcases ends_writePieces apartly fine looks otherwise wrote with ⟨other, _⟩ | ⟨_, before⟩
    · cases other
    · rw [called] at before
      exact ⟨iff_of_false nofun before, iff_of_true rfl before⟩
  | error failure =>
    have cancelled := alone failure ended
    have otherwise : ∀ other ∈ some failure, ¬ other.isCancellation = false := by
      intro other member
      obtain rfl := Option.some.inj member
      simp [cancelled]
    have ends : surroundings.Ends (download downloader job watch) (.start world.tree)
        (some failure) := by
      rw [Surroundings.ends_some_iff, same, ended]
    obtain ⟨destination, file, path, fresh, location, total, ready, vacant, called, looks, wrote⟩ :=
      exists_reachesWriting apartly first fine stops otherwise ends
    rcases ends_writePieces apartly fine looks otherwise wrote with ⟨is, after⟩ | ⟨other, _⟩
    · obtain rfl := Option.some.inj is
      rw [called] at after
      rw [ended] at same
      have left := tree_of_cancelled path fresh vacant (refusals ▸ kept) same
      exact ⟨iff_of_true ⟨rfl, tree.symm.trans left⟩ after,
        iff_of_false nofun fun before => before after⟩
    · cases other

/-- A world that brings three bytes in two pieces, and whose follower wishes to stop at one of its
calls. -/
def stoppingAt (call : Nat) : World :=
  { World.empty with
    script := [.ok threeBytesResponse]
    follower := { Follower.start with cancelAt := some call } }

theorem wishesFrom_stoppingAt (later : 0 < call) : (stoppingAt call).WishesFrom call :=
  ⟨iff_of_false Bool.false_ne_true (Nat.not_le.mpr later), fun _ => rfl⟩

theorem isApart_stoppingAt (call : Nat) : (stoppingAt call).IsApart where
  refused _ action _ refused := by cases action <;> cases refused
  called _ _ fails := nomatch fails

/-- Nothing else fails there. -/
theorem isCancellation_of_stopped {failure : Failure}
    (failed : ((stoppingAt 1).attempt (download .standard threeBytes .counts)).1
      = .error failure) : failure.isCancellation = true := by
  have ended : (match ((stoppingAt 1).attempt (download .standard threeBytes .counts)).1 with
      | .ok _ => true
      | .error failure => failure.isCancellation) = true := by decide +kernel
  rwa [failed] at ended

/-- A wish that is made when the first of two pieces is reported. -/
theorem cancellation_honoured_iff_first :
    (stoppingAt 1).logFile = none ∧ (stoppingAt 1).follower.calls = []
      ∧ (stoppingAt 1).WishesFrom 1 ∧ (stoppingAt 1).IsApart
      ∧ (stoppingAt 1).faults.remove = none
      ∧ (stoppingAt 1).script.head? = some (.ok threeBytesResponse)
      ∧ (∀ failure,
          .error failure ∈ threeBytesResponse.arrivals Downloader.standard.pieceSize →
          failure.isFetch = false)
      ∧ (∀ failure, ((stoppingAt 1).attempt (download .standard threeBytes .counts)).1
          = .error failure → failure.isCancellation = true)
      ∧ ((stoppingAt 1).attempt (download .standard threeBytes .counts)).1
          = .error threeBytes.cancellation
      ∧ ((stoppingAt 1).attempt (download .standard threeBytes .counts)).2.tree
          = (stoppingAt 1).tree := by
  have fine : ∀ failure,
      .error failure ∈ threeBytesResponse.arrivals Downloader.standard.pieceSize →
      failure.isFetch = false := by
    simp [threeBytesResponse, Response.arrivals]
  have alone : ∀ failure, ((stoppingAt 1).attempt (download .standard threeBytes .counts)).1
      = .error failure → failure.isCancellation = true := fun _ => isCancellation_of_stopped
  have arrives : Arrives .counts 1 (threeBytesResponse.arrivals Downloader.standard.pieceSize) :=
    ⟨[.ok [1, 2]], .ok [3], [], rfl, Nat.le_refl 1⟩
  have honoured := (cancellation_honoured_iff rfl rfl (wishesFrom_stoppingAt Nat.one_pos)
    (isApart_stoppingAt 1) rfl rfl fine alone).1.mpr arrives
  exact ⟨rfl, rfl, wishesFrom_stoppingAt Nat.one_pos, isApart_stoppingAt 1, rfl, rfl, fine, alone,
    honoured⟩

/-- A world with a wish to stop from the start, and an empty body. -/
def stoppedEmpty : World :=
  { World.empty with
    script := [.ok ⟨200, [("content-length", .text "0")], .pieces [],
      .utf8 Json.Depths.usual.read⟩]
    cancelled := true }

/-- **A wish to stop may come too late to be looked for**: when the last piece is reported, or,
where no piece comes, at any time. The download succeeds. -/
theorem late_cancellation_is_ignored :
    ((stoppingAt 2).WishesFrom 2
      ∧ ((stoppingAt 2).attempt (download .standard threeBytes .counts)).1.isOk = true
      ∧ ((stoppingAt 2).attempt (download .standard threeBytes .counts)).2.cancelled = true
      ∧ ((stoppingAt 2).attempt (download .standard threeBytes .counts)).2.tree
        ≠ (stoppingAt 2).tree)
    ∧ stoppedEmpty.WishesFrom 0
      ∧ (stoppedEmpty.attempt (download .standard threeBytes .counts)).1.isOk = true
      ∧ (stoppedEmpty.attempt (download .standard threeBytes .counts)).2.tree
        ≠ stoppedEmpty.tree :=
  ⟨⟨wishesFrom_stoppingAt Nat.two_pos, by decide +kernel⟩,
    ⟨iff_of_true rfl (Nat.le_refl 0), fun early => absurd early (Nat.lt_irrefl 0)⟩,
    by decide +kernel⟩

end Honouring

end Download

end AssetFetch
