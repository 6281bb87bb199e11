/-
**Runs of attempts end.**

Nothing counts the attempts, and nothing counts how often the user is asked again. What both loops
use up is the input: a further attempt is made only after a line that chooses it, and a question is
repeated only after a line that chooses nothing.

* `Action.SendsAtMost`: how many requests an action sends at most, added up along a sequence;
* `Retry.Loop`, `exists_loop`: a run of attempts, step by step, and every run is one;
* `Loop.length_add_patience_le`: **every attempt but the first has used up an answer**;
* `Order.sendsAtMost_attempt`: an attempt to fetch an asset is at most two requests;
* `Order.fetch_ends`: **a fetch ends**, with at most one attempt more than there are lines of input.
-/

import AssetFetch.Proofs.Attempts

namespace AssetFetch

open World

/-! ### Requests -/

/-- Wherever it is done, an action sends at most so many requests. -/
def Action.SendsAtMost {α : Type} (count : Nat) (action : Action α) : Prop :=
  ∀ world : World, (world.attempt action).2.requests.length ≤ world.requests.length + count

namespace Action.SendsAtMost

variable {α β : Type} {count first second : Nat} {action : Action α}

theorem of_unsent (unsent : action.Only Effect.IsUnsent) : SendsAtMost 0 action := by
  intro world
  exact Nat.le_of_eq (congrArg List.length (requests_run unsent world))

/-- **A sequence sends what its parts send.** -/
theorem bind {next : α → Action β} (before : SendsAtMost first action)
    (after : ∀ value, SendsAtMost second (next value)) :
    SendsAtMost (first + second) (action >>= next) := by
  intro world
  have sent := before world
  rw [attempt_bind]
  cases attempted : world.attempt action with
  | mk result later =>
    rw [attempted] at sent
    cases result with
    | ok value =>
      have more := after value later
      simp only at sent more ⊢
      omega
    | error failure =>
      simp only at sent ⊢
      omega

theorem ofExcept (result : Except Failure α) : SendsAtMost 0 (.ofExcept result) :=
  of_unsent (.ofExcept result)

end Action.SendsAtMost

/-- A lookup sends one request, or none if there is no address to ask. -/
theorem sendsAtMost_lookup (client : Client) (tag : Value) :
    (client.lookup tag).SendsAtMost 1 := by
  intro world
  cases address : releaseUrl tag client.apiBase client.repository with
  | ok url =>
    rw [requests_lookup client tag address, List.length_append]
    rfl
  | error failure =>
    have stops : world.attempt (client.lookup tag) = (.error failure, world) := by
      rw [lookup_eq, attempt_bind_of_error]
      rw [address, attempt_ofExcept]
    rw [stops]
    exact Nat.le_add_right ..

theorem sendsAtMost_lookupWith (settings : Settings) (tag : Value) :
    (lookupWith settings tag).SendsAtMost 1 := by
  have unsent : TokenStore.get.Only Effect.IsUnsent :=
    TokenStore.only_get (fun _ => nofun) fun _ => nofun
  exact (Action.SendsAtMost.of_unsent unsent).bind fun _ => sendsAtMost_lookup _ tag

theorem sendsAtMost_downloadReporting (downloader : Downloader) (job : Download) :
    (downloadReporting downloader job).SendsAtMost 1 := by
  intro world
  obtain ⟨sent, requests, once⟩ := requests_downloadReporting downloader job world
  rw [requests, List.length_append]
  rcases once with rfl | rfl
  · exact Nat.le_succ _
  · exact Nat.le_refl _

/-- **An attempt to fetch an asset is at most two requests**: the lookup and the download. -/
theorem Order.sendsAtMost_attempt (order : Order) : order.attempt.SendsAtMost 2 :=
  (sendsAtMost_lookupWith order.settings order.tag).bind fun _ =>
    (Action.SendsAtMost.ofExcept _).bind fun asset =>
      sendsAtMost_downloadReporting _ (order.job asset)

/-! ### Between attempts -/

section Between

/-- Nothing is sent while a token is asked for and stored. -/
theorem requests_renewToken (dialog : Dialog) (world : World) :
    (renewToken dialog world).2.2.requests = world.requests := by
  have looked : (world.attempt TokenStore.get).2.requests = world.requests :=
    requests_run (TokenStore.only_get (fun _ => nofun) fun _ => nofun) world
  rw [renewToken_eq]
  cases read : world.attempt TokenStore.get with
  | mk result later =>
    rw [read] at looked
    cases result with
    | error failure => exact looked
    | ok current =>
      simp only
      split
      · exact looked
      · exact (requests_run (Retry.only_storeAnswer (fun _ => nofun) (fun _ => nofun) _) _).trans
          looked

/-- Nothing is sent between attempts. -/
theorem requests_afterFailure (failure : Failure) (dialog : Dialog) (world : World) :
    (afterFailure failure dialog world).world.requests = world.requests := by
  have reported : (world.run (Retry.reportFailure failure)).2.requests = world.requests :=
    (sameOutside_run_log ..).requests
  rw [afterFailure_eq]
  split
  · simp only
    split
    · exact reported
    · split
      · exact (requests_renewToken ..).trans reported
      · exact (requests_renewToken ..).trans reported
    · exact reported
    · exact reported
  · rfl

end Between

/-- The dialog after a failed attempt that has been reported. -/
def AfterFailure.dialog : AfterFailure → Dialog
  | stop _ dialog _ => dialog
  | again dialog _ => dialog

theorem patience_askHowToGoOn_le (dialog : Dialog) (message : String) :
    (dialog.askHowToGoOn message).next.patience ≤ dialog.patience := by
  obtain ⟨answers, messages, tokenRequests⟩ := dialog
  cases answers with
  | prepared choices tokens =>
    cases choices with
    | nil => exact Nat.le_refl _
    | cons first rest => exact Nat.le_succ _
  | terminal lines secrets => exact (Dialog.length_rest_readChoice lines).1

/-- No answer comes back between attempts. -/
theorem patience_afterFailure_le (failure : Failure) (dialog : Dialog) (world : World) :
    (afterFailure failure dialog world).dialog.patience ≤ dialog.patience := by
  have asked := patience_askHowToGoOn_le dialog (Retry.failureMessage failure)
  rw [afterFailure_eq]
  split
  · simp only
    split
    · exact asked
    · split
      · exact (patience_renewToken ..).trans_le asked
      · exact (patience_renewToken ..).trans_le asked
    · exact asked
    · exact asked
  · exact Nat.le_refl _

/-! ### The loop -/

namespace Retry

variable {α : Type} {action : Action α} {count : Nat} {dialog : Dialog} {world : World}
  {attempts : List (Attempt α)} {ended : Except Failure α × Dialog × World}

/-- A run of attempts, step by step: one that succeeds is the last; after one that fails the run
stops, or goes on with the answers that are left. -/
inductive Loop (action : Action α) : Dialog → World → List (Attempt α) →
    Except Failure α × Dialog × World → Prop
  | succeeds {dialog : Dialog} {world after : World} {value : α} :
      world.attempt action = (.ok value, after) →
      Loop action dialog world [.of action world] (.ok value, dialog, after)
  | stops {dialog rest : Dialog} {world after later : World} {failure last : Failure} :
      world.attempt action = (.error failure, after) →
      afterFailure failure dialog after = .stop last rest later →
      Loop action dialog world [.of action world] (.error last, rest, later)
  | goesOn {dialog next : Dialog} {world after later : World} {failure : Failure}
      {attempts : List (Attempt α)} {ended : Except Failure α × Dialog × World} :
      world.attempt action = (.error failure, after) →
      afterFailure failure dialog after = .again next later →
      Loop action next later attempts ended →
      Loop action dialog world (.of action world :: attempts) ended

/-- **Every run of attempts is such a loop**, and thus comes to an end. By induction on the answers
that are still to come. -/
theorem exists_loop (action : Action α) (dialog : Dialog) (world : World) :
    ∃ attempts, Loop action dialog world attempts (withRetry action dialog world) := by
  induction patience : dialog.patience using Nat.strong_induction_on generalizing dialog world with
  | h count ih =>
    cases attempted : world.attempt action with
    | mk result after =>
      cases result with
      | ok value =>
        rw [withRetry_of_ok attempted]
        exact ⟨_, .succeeds attempted⟩
      | error failure =>
        cases follows : afterFailure failure dialog after with
        | stop last rest later =>
          rw [withRetry_of_stop attempted follows]
          exact ⟨_, .stops attempted follows⟩
        | again next later =>
          rw [withRetry_of_again attempted follows]
          obtain ⟨attempts, loop⟩ :=
            ih _ (patience ▸ patience_afterFailure follows) next later rfl
          exact ⟨_, .goesOn attempted follows loop⟩

/-- **Every attempt but the first has used up an answer**, and none comes back. -/
theorem Loop.length_add_patience_le (loop : Loop action dialog world attempts ended) :
    attempts.length + ended.2.1.patience ≤ dialog.patience + 1 := by
  induction loop with
  | succeeds attempted => exact Nat.le_of_eq (Nat.add_comm ..)
  | @stops dialog _ _ after _ failure _ attempted follows =>
    have left := patience_afterFailure_le failure dialog after
    rw [follows] at left
    simp only [AfterFailure.dialog, List.length_singleton] at left ⊢
    omega
  | goesOn attempted follows loop ih =>
    have fewer := patience_afterFailure follows
    rw [List.length_cons]
    omega

/-- **A run sends what its attempts send.** -/
theorem Loop.requests_le (sends : action.SendsAtMost count)
    (loop : Loop action dialog world attempts ended) :
    ended.2.2.requests.length ≤ world.requests.length + count * attempts.length := by
  induction loop with
  | @succeeds _ world _ _ attempted =>
    have sent := sends world
    rw [attempted] at sent
    simpa using sent
  | @stops dialog _ world after _ failure _ attempted follows =>
    have sent := sends world
    have silent := requests_afterFailure failure dialog after
    rw [attempted] at sent
    rw [follows] at silent
    simp only [AfterFailure.world] at silent
    simpa [silent] using sent
  | @goesOn dialog _ world after _ failure attempts _ attempted follows loop ih =>
    have sent := sends world
    have silent := requests_afterFailure failure dialog after
    rw [attempted] at sent
    rw [follows] at silent
    simp only [AfterFailure.world] at silent sent
    rw [silent] at ih
    rw [List.length_cons, Nat.mul_succ]
    omega

end Retry

/-- **A fetch by a user at a terminal ends.** Whatever the replies are and however the keyring
fails, the attempts come to an end, whether with the path of the file or with a failure; there is at
most one more than there are lines of input, and each of them is at most two requests. What is
entered as a token makes no difference. -/
theorem Order.fetch_ends (order : Order) (lines secrets : List Line) (world : World) :
    ∃ attempts, Retry.Loop order.attempt (.ofAnswers (.terminal lines secrets))
        (world.run order.announce).2 attempts
        (order.fetch (.ofAnswers (.terminal lines secrets)) world)
      ∧ attempts.length ≤ lines.length + 1
      ∧ (order.fetch (.ofAnswers (.terminal lines secrets)) world).2.2.requests.length
        ≤ world.requests.length + 2 * (lines.length + 1) := by
  obtain ⟨attempts, loop⟩ := Retry.exists_loop order.attempt
    (.ofAnswers (.terminal lines secrets)) (world.run order.announce).2
  have few : attempts.length ≤ lines.length + 1 :=
    (Nat.le_add_right ..).trans loop.length_add_patience_le
  have announced : (world.run order.announce).2.requests = world.requests :=
    (sameOutside_run_log ..).requests
  refine ⟨attempts, loop, few, ?_⟩
  calc (order.fetch (.ofAnswers (.terminal lines secrets)) world).2.2.requests.length
      ≤ (world.run order.announce).2.requests.length + 2 * attempts.length :=
        loop.requests_le order.sendsAtMost_attempt
    _ ≤ world.requests.length + 2 * (lines.length + 1) := by
      rw [announced]
      omega

end AssetFetch
