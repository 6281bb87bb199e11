/-
**What an attempt finds, and what it leaves.**

* `Response.Describes`, `exists_looked`: a lookup that succeeds has found what the next reply
  describes;
* `World.Brought`, `Order.exists_fetched`: **a fetch that succeeds leaves the destination with what
  the last reply brought**;
* `Order.passes_of_error`: **a fetch that fails keeps everything** but its new file and the log;
* `ended_lookups`, `Order.ended_fetches`: how runs of lookups and of fetches end.
-/

import AssetFetch.Proofs.Attempts
import AssetFetch.Proofs.Download.Landing

namespace AssetFetch

open World

/-! ### Lookups -/

/-- A response that describes a release. -/
def Response.Describes (response : Response) (release : Release) : Prop :=
  Lookup.describedBy response = .ok release

section Lookups

variable {world later : World} {client : Client} {tag : Value} {url : String} {response : Response}
  {release : Release} {settings : Settings} {paths : Path → Prop} {changed : Location → Prop}
  {origin : World}

theorem World.head?_of_onSend {request : Request}
    (replied : (world.onSend request).1 = .ok response) :
    world.script.head? = some (.ok response) := by
  unfold onSend at replied
  split at replied
  · cases replied
  · cases replied
  · rename_i script
    cases replied
    rw [script]
    rfl

/-- What is made of a reply is a release if the reply describes it. -/
theorem Lookup.describes_of_receive {result : Except Failure Response}
    (ok : world.attempt (receive tag url result) = (.ok release, later)) :
    ∃ response, result = .ok response ∧ response.Describes release := by
  cases result with
  | error failure =>
    have fails : ∀ logger message (other : Failure), world.attempt (do
        log .error logger message
        throw other : Action Release) ≠ (.ok release, later) := by
      intro logger message other thrown
      obtain ⟨_, _, _, last⟩ := exists_of_attempt_bind thrown
      cases last
    simp only [receive, explain] at ok
    split at ok
    · split at ok
      · exact absurd ok (fails _ _ _)
      · split at ok <;> exact absurd ok (fails _ _ _)
    · cases ok
  | ok response =>
    refine ⟨response, rfl, ?_⟩
    by_cases refusal : response.isRefusal = true
    · simp only [receive, if_pos refusal, refused] at ok
      obtain ⟨_, _, _, logged⟩ := exists_of_attempt_bind ok
      obtain ⟨_, _, _, thrown⟩ := exists_of_attempt_bind logged
      cases thrown
    · simp only [receive, if_neg refusal, answered] at ok
      split at ok
      · split at ok
        · obtain ⟨_, _, _, logged⟩ := exists_of_attempt_bind ok
          obtain ⟨_, _, _, thrown⟩ := exists_of_attempt_bind logged
          cases thrown
        · cases ok
      · rename_i found
        obtain ⟨_, _, _, returned⟩ := exists_of_attempt_bind ok
        cases returned
        exact found

/-- **A lookup that succeeds** has sent one request, and has found what the reply describes. -/
theorem Client.exists_looked (ok : world.attempt (client.lookup tag) = (.ok release, later)) :
    ∃ response, world.script.head? = some (.ok response) ∧ response.Describes release
      ∧ later.requests.length = world.requests.length + 1 := by
  have steps := ok
  rw [lookup_eq] at steps
  obtain ⟨url, _, found, afterUrl⟩ := exists_of_attempt_bind steps
  obtain ⟨address, rfl⟩ := Prod.mk.inj ((attempt_ofExcept ..).symm.trans found)
  have requests := requests_lookup client tag address world
  rw [ok] at requests
  rw [attempt_bind_of_ok (attempt_log ..)] at afterUrl
  obtain ⟨result, _, sent, received⟩ := exists_of_attempt_bind afterUrl
  obtain ⟨replied, rfl⟩ := Prod.mk.inj ((attempt_ofProgram ..).symm.trans sent)
  obtain ⟨response, rfl, describes⟩ := Lookup.describes_of_receive received
  refine ⟨response, ?_, describes, ?_⟩
  · have first := head?_of_onSend (Except.ok.inj replied)
    have same := congrArg Beyond.script (beyond_log world ⟨.number Severity.debug.number,
      Lookup.logger, "Issuing request for released artifacts metadata to " ++ url⟩)
    exact (congrArg List.head? same).symm.trans first
  · rw [requests, List.length_append]
    rfl

theorem passes_lookupWith (settings : Settings) (tag : Value) :
    (lookupWith settings tag).Only (Effect.Passes paths) :=
  .bind (TokenStore.only_get Effect.passes_keyring Effect.passes_log) fun _ =>
    (quiet_lookup _ tag).mono fun _ quiet => quiet.passes paths

/-- **So does one with the token that is stored.** -/
theorem exists_looked (ok : world.attempt (lookupWith settings tag) = (.ok release, later)) :
    ∃ response, world.script.head? = some (.ok response) ∧ response.Describes release
      ∧ later.requests.length = world.requests.length + 1 := by
  obtain ⟨token, middle, read, looked⟩ := exists_of_attempt_bind ok
  obtain ⟨response, first, describes, sent⟩ := Client.exists_looked looked
  have unsent : TokenStore.get.Only fun effect => effect.IsUnsent ∧ effect.IsUnprinted :=
    TokenStore.only_get (fun _ => ⟨nofun, nofun⟩) fun _ => ⟨nofun, nofun⟩
  have same := beyond_run unsent world
  rw [show world.run TokenStore.get.outcome = _ from read] at same
  have script : middle.script = world.script := congrArg Beyond.script same
  have requests : middle.requests = world.requests := congrArg Beyond.requests same
  exact ⟨response, script ▸ first, describes, requests ▸ sent⟩

theorem ended_lookups (dialog : Dialog) (begun : Passes paths changed origin world) :
    Retry.Ended paths changed (lookupWith settings tag) origin
      (withRetry (lookupWith settings tag) dialog world) := by
  refine Retry.ended_withRetry (fun {before} _ _ _ failed => ?_) dialog begun
  have passes : Passes paths changed before (before.attempt (lookupWith settings tag)).2 :=
    passes_run (passes_lookupWith settings tag) before
  rwa [failed] at passes

end Lookups

/-! ### Fetches -/

/-- What the last reply brought: the pieces of its body together come to the data, unpacked if that
is wished, and these are what the destination holds. -/
structure World.Brought (gunzip : Bool) (mode : Given Int) (before after : World)
    (destination : Path) (response : Response) (pieces : List Bytes) (data : Bytes) : Prop where
  replied : before.LastReply after response
  arrived : response.arrivals defaultPieceSize = pieces.map .ok
  unpacked : Download.contentOf gunzip pieces.flatten = .ok data
  holds : after.tree.status destination
    = .ok (.file data (Download.finalMode after.tree.privileged mode data))

/-- A reporting download is one after the title has been shown. -/
theorem attempt_downloadReporting (downloader : Downloader) (job : Download) (world : World) :
    world.attempt (downloadReporting downloader job)
      = (world.announce job.title).attempt (download downloader job .percents) :=
  attempt_bind_of_ok (attempt_ofProgram ..)

namespace Order

variable {order : Order} {origin world later : World} {path : Path} {failure : Failure}
  {paths : Path → Prop} {changed : Location → Prop}

/-- A fetch asks for what the lookup and a download ask for. -/
theorem only_attempt {kind : Effect → Prop}
    (looks : (lookupWith order.settings order.tag).Only kind)
    (plain : ∀ effect, effect.IsPlain → kind effect) : order.attempt.Only kind :=
  .bind looks fun _ => .bind (.ofExcept _) fun _ => (plain_downloadReporting _ _).mono plain

/-- **No fetch prints anything.** -/
theorem unprinted_attempt (order : Order) : order.attempt.Only Effect.IsUnprinted := by
  have looks : (lookupWith order.settings order.tag).Only (Effect.Passes fun _ => False) :=
    passes_lookupWith ..
  exact only_attempt (looks.mono fun _ passes => passes.unprinted) fun _ plain => plain.unprinted

/-- **A fetch that succeeds** leaves the destination with what the last reply brought. -/
theorem exists_fetched (isToken : IsToken world.name)
    (away : ∀ destination : Path, ∀ place ∈ world.logFile,
      place.getLast? ≠ some (destination.fresh world.name).fileName)
    (ok : world.attempt order.attempt = (.ok path, later)) :
    order.destination.path = .ok path ∧ ∃ response pieces data,
      World.Brought order.gunzip order.mode world later path response pieces data := by
  obtain ⟨release, middle, looked, afterLookup⟩ := exists_of_attempt_bind ok
  obtain ⟨asset, _, selected, reporting⟩ := exists_of_attempt_bind afterLookup
  obtain ⟨_, rfl⟩ := Prod.mk.inj ((attempt_ofExcept ..).symm.trans selected)
  rw [attempt_downloadReporting] at reporting
  have passes : Passes (fun _ => False) (fun _ => True) world
      (world.attempt (lookupWith order.settings order.tag)).2 :=
    passes_run (passes_lookupWith order.settings order.tag) world
  rw [looked] at passes
  have name : (middle.announce (order.job asset).title).name = world.name := passes.onward.name
  obtain ⟨response, pieces, data, landed⟩ := Download.exists_landed (name ▸ isToken)
    (fun destination place inside => name ▸ away destination place (passes.logFile place inside))
    reporting
  have user : World.SameUser _ later := sameUser_of_attempt reporting
  refine ⟨landed.destined, response, pieces, data, ?_, landed.arrived, landed.unpacked,
    user.symm ▸ landed.holds⟩
  refine passes.onward.lastReply landed.answered ?_
  rw [landed.sent, List.length_append]
  rfl

/-- **A fetch that fails** prints nothing and keeps everything but its new file and the log. -/
theorem passes_of_error
    (own : ∀ destination, order.destination.path = .ok destination →
      paths (destination.fresh world.name))
    (failed : world.attempt order.attempt = (.error failure, later)) :
    Passes paths changed world later := by
  have looks : (lookupWith order.settings order.tag).Only (Effect.Passes paths) :=
    passes_lookupWith order.settings order.tag
  have after : later = (world.run order.attempt.outcome).2 := (congrArg Prod.snd failed).symm
  refine ⟨?_, ?_, ?_, fun confined => ?_⟩
  · exact after ▸ onward_run _ world
  · exact after ▸ output_run order.unprinted_attempt world
  · exact after ▸ mem_logFile_run (only_attempt (looks.mono fun _ passes => passes.opens)
      fun _ plain => plain.opensNoLog) world
  · -- an attempt that fails does so at the lookup, at the choice of the asset or at the download
    have lookup : Passes paths changed world
        (world.attempt (lookupWith order.settings order.tag)).2 := passes_run looks world
    unfold Order.attempt at failed
    rw [attempt_bind] at failed
    cases looked : world.attempt (lookupWith order.settings order.tag) with
    | mk result middle =>
      rw [looked] at failed lookup
      have looking := lookup.confines confined
      cases result with
      | error other =>
        cases failed
        exact looking
      | ok release =>
        simp only at failed
        cases selected : release.select order.asset with
        | error other =>
          rw [selected] at failed
          cases failed
          exact looking
        | ok asset =>
          rw [selected, attempt_bind_of_ok (attempt_ofExcept ..), attempt_downloadReporting]
            at failed
          have waiting : Confines paths changed middle (middle.announce (order.job asset).title) :=
            looking.confined.confines_of_same rfl rfl
          refine looking.trans (waiting.trans (Download.confines_download_of_error ?_
            waiting.confined failed))
          intro destination destined
          have name : (middle.announce (order.job asset).title).name = world.name :=
            lookup.onward.name
          exact name ▸ own destination destined

/-- **A run of fetches** ends with one that succeeds, or after one that failed. -/
theorem ended_fetches
    (own : ∀ destination, order.destination.path = .ok destination →
      paths (destination.fresh origin.name)) (dialog : Dialog)
    (begun : Passes paths changed origin world) :
    Retry.Ended paths changed order.attempt origin (withRetry order.attempt dialog world) := by
  refine Retry.ended_withRetry (fun before failed => ?_) dialog begun
  exact passes_of_error (fun destination destined => before.onward.name ▸ own destination destined)
    failed

end Order

end AssetFetch
