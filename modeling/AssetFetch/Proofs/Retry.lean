/-
**What trying again comes to.**

The statements are about a user whose answers are prepared: any list of choices and any list of
tokens, where an answer that is missing gives up.

* `Attempt`: one attempt of an action, with the world before and after it;
* `Retry.Ends`: whether a run ends with an attempt, by the answer to the question about it;
* `Retry.updates`: the answers to the question for a token that the first attempts are followed by;
* `Retry.Course`: what a run of attempts is like, from the first to the last;
* `Course.last`, `Course.again`: a run of one attempt, and a run with one more before it;
* `exists_course`: every run of an action that looks at the keyring once is like that.
-/

import AssetFetch.Proofs.Keyring

namespace AssetFetch

/-! ### Attempts -/

/-- One attempt: the world it begins in, what it comes to, and the world it leaves. -/
structure Attempt (α : Type) where
  before : World
  outcome : Except Failure α
  after : World

namespace Attempt

variable {α : Type}

/-- An attempt of an action in a world. -/
def of (action : Action α) (world : World) : Attempt α :=
  ⟨world, (world.attempt action).1, (world.attempt action).2⟩

/-- The requests of an attempt. -/
def sent (attempt : Attempt α) : List Request :=
  attempt.after.requests.drop attempt.before.requests.length

/-- What the user is shown about an attempt: its failure, unless it is an interruption. -/
def shown? (attempt : Attempt α) : Option String :=
  match attempt.outcome with
  | .ok _ => none
  | .error failure => if failure.isOrdinary then some (Retry.failureMessage failure) else none

theorem sent_of_requests {action : Action α} {world : World} {added : List Request}
    (after : (of action world).after.requests = world.requests ++ added) :
    (of action world).sent = added := by
  unfold sent
  rw [after]
  exact List.drop_left

/-- Requests are added to those before. -/
theorem requests_after (action : Action α) (world : World) :
    (of action world).after.requests = world.requests ++ (of action world).sent := by
  obtain ⟨added, same⟩ := World.requests_prefix_run action.outcome world
  have after : (of action world).after.requests = world.requests ++ added := same.symm
  rw [after, sent_of_requests after]

end Attempt

/-! ### After a failure -/

section Failing

variable {failure : Failure} {world : World} (choices : List (Option Choice))
  (tokens : List (Option String)) (messages : List String)
  (requests : List (Option String × String))

theorem sameOutside_tell (text : String) : world.SameOutside (world.tell text) :=
  ⟨rfl, rfl⟩

/-- A new token is asked for once, and the answer is stored. -/
theorem renewToken_prepared (own : world.keyring.faults.AreOwn) :
    ∃ asked later, renewToken ⟨.prepared choices tokens, messages, requests⟩ world
        = (.ok (), ⟨.prepared choices tokens.tail, messages, asked⟩, later)
      ∧ later.keyring = (world.keyring.told .get).renew tokens.head?.join
      ∧ later.requests = world.requests := by
  obtain ⟨looked, current, keyring, sent⟩ := attempt_get own
  have ownTold : (looked.tell "").keyring.faults.AreOwn := by
    rw [(sameOutside_tell "").keyring, keyring]
    exact own
  obtain ⟨later, stored, renewed, unsent⟩ := attempt_storeAnswer ownTold tokens.head?.join
  refine ⟨requests ++ [(world.keyring.readable, Retry.tokenExplanation)], later, ?_, ?_, ?_⟩
  · rw [renewToken_eq, current]
    cases tokens with
    | nil =>
      rw [List.head?_nil, Option.join_none] at stored
      simp only [Dialog.askForToken, stored, List.tail_nil]
    | cons token rest =>
      rw [List.head?_cons, Option.join_some] at stored
      simp only [Dialog.askForToken, stored, List.tail_cons]
  · rw [renewed, (sameOutside_tell "").keyring, keyring]
  · rw [unsent, (sameOutside_tell "").requests, sent]

/-- An interruption is not asked about. -/
theorem afterFailure_of_interruption (interruption : failure.isOrdinary = false)
    (dialog : Dialog) : afterFailure failure dialog world = .stop failure dialog world := by
  rw [afterFailure_eq]
  rw [interruption]
  rfl

theorem sameOutside_reported (failure : Failure) (world : World) :
    world.SameOutside ((world.run (Retry.reportFailure failure)).2.tell "") :=
  (World.sameOutside_run_log ..).trans (sameOutside_tell "")

/-- Who gives up is asked once. -/
theorem afterFailure_dismissed (ordinary : failure.isOrdinary = true)
    (gives : choices.head?.join = none ∨ choices.head?.join = some .dismiss) :
    ∃ next later, afterFailure failure ⟨.prepared choices tokens, messages, requests⟩ world
        = .stop failure next later
      ∧ next.messages = messages ++ [Retry.failureMessage failure]
      ∧ world.SameOutside later := by
  have same := sameOutside_reported failure world
  rw [afterFailure_eq]
  rw [if_pos ordinary]
  cases choices with
  | nil => exact ⟨_, _, rfl, rfl, same⟩
  | cons choice rest =>
    rw [List.head?_cons, Option.join_some] at gives
    rcases gives with rfl | rfl
    · exact ⟨_, _, rfl, rfl, same⟩
    · exact ⟨_, _, rfl, rfl, same⟩

/-- Who wishes to try again is asked once. -/
theorem afterFailure_retry (ordinary : failure.isOrdinary = true) (world : World) :
    ∃ later,
      afterFailure failure ⟨.prepared (some .retry :: choices) tokens, messages, requests⟩ world
        = .again ⟨.prepared choices tokens, messages ++ [Retry.failureMessage failure], requests⟩
          later
      ∧ world.SameOutside later := by
  rw [afterFailure_eq]
  rw [if_pos ordinary]
  exact ⟨_, rfl, sameOutside_reported failure world⟩

/-- Who wishes to renew the token is asked once about the failure and once for the token. -/
theorem afterFailure_renewToken (ordinary : failure.isOrdinary = true)
    (own : world.keyring.faults.AreOwn) :
    ∃ asked later,
      afterFailure failure ⟨.prepared (some .renewToken :: choices) tokens, messages, requests⟩
          world
        = .again ⟨.prepared choices tokens.tail, messages ++ [Retry.failureMessage failure], asked⟩
            later
      ∧ later.keyring = (world.keyring.told .get).renew tokens.head?.join
      ∧ later.requests = world.requests := by
  have same := sameOutside_reported failure world
  have ownReported := same.keyring ▸ own
  obtain ⟨asked, later, renewed, keyring, sent⟩ := renewToken_prepared choices tokens
    (messages ++ [Retry.failureMessage failure]) requests ownReported
  refine ⟨asked, later, ?_, ?_, ?_⟩
  · rw [afterFailure_eq]
    rw [if_pos ordinary]
    simp only [Dialog.askHowToGoOn, renewed]
  · rw [keyring, same.keyring]
  · rw [sent, same.requests]

end Failing

namespace Retry

variable {α : Type}

/-- Whether a run ends with an attempt: it succeeded, it was interrupted, or the answer to the
question about its failure is to give up or missing. -/
def Ends (outcome : Except Failure α) (answer : Option Choice) : Prop :=
  match outcome with
  | .ok _ => True
  | .error failure => failure.isOrdinary = false ∨ answer = none ∨ answer = some .dismiss

/-- The answers to the question for a token, which is asked once for every wish of this kind among
the first answers. -/
def updates (choices : List (Option Choice)) (tokens : List (Option String)) (count : Nat) :
    List (Option String) :=
  tokens.take ((choices.take count).count (some .renewToken))

/-- **A run of attempts by prepared answers.** -/
structure Course (action : Action α) (choices : List (Option Choice))
    (tokens : List (Option String)) (asked : List String) (start : World)
    (ended : Except Failure α × Dialog × World) (attempts : List (Attempt α)) : Prop where
  /-- The first attempt begins where the run does. -/
  first : attempts.head?.map Attempt.before = some start
  /-- Every attempt is one of the action. -/
  attempted : ∀ attempt ∈ attempts, attempt = .of action attempt.before
  /-- The run ends with the first attempt that calls for it. -/
  stops : ∀ index (inside : index < attempts.length),
    Ends attempts[index].outcome choices[index]?.join ↔ index + 1 = attempts.length
  /-- The run comes to what the last attempt comes to. -/
  outcome : attempts.getLast?.map Attempt.outcome = some ended.1
  /-- The user is asked once about every failure that is no interruption. -/
  prompts : ended.2.1.messages = asked ++ attempts.filterMap Attempt.shown?
  /-- Every attempt finds the token that the updates before it left. -/
  token : ∀ index (inside : index < attempts.length),
    attempts[index].before.keyring.token
      = (updates choices tokens index).foldl start.keyring.faults.renewed start.keyring.token
  /-- The failures of the keyring are the same for every attempt. -/
  faults : ∀ attempt ∈ attempts, attempt.before.keyring.faults = start.keyring.faults
  /-- The keyring is written to once for every update, and not otherwise. -/
  writes : ended.2.2.keyring.writes
    = start.keyring.writes ++ (updates choices tokens (attempts.length - 1)).filterMap callOf
  /-- Nothing is sent but by the attempts. -/
  requests : ended.2.2.requests = start.requests ++ attempts.flatMap Attempt.sent

/-! ### Runs -/

section Runs

variable {action : Action α} {choices : List (Option Choice)} {tokens : List (Option String)}
  {asked : List String} {world : World} {ended : Except Failure α × Dialog × World}
  {attempts : List (Attempt α)}

/-- An action that looks at the keyring once and does nothing else to it. -/
def LooksOnce (action : Action α) : Prop :=
  ∀ world : World, (world.attempt action).2.keyring = world.keyring.told .get

theorem looksOnce_get : LooksOnce TokenStore.get :=
  keyring_get

/-- What follows the look does without the keyring. -/
theorem LooksOnce.bind {β : Type} {next : α → Action β} (looks : LooksOnce action)
    (plain : ∀ value, (next value).Only Effect.IsPlain) : LooksOnce (action >>= next) := by
  intro world
  have ran := looks world
  rw [World.attempt_bind]
  cases attempted : world.attempt action with
  | mk result later =>
    rw [attempted] at ran
    cases result with
    | ok value => exact (World.keyring_run (plain value) later).trans ran
    | error failure => exact ran

/-- A run of one attempt. -/
theorem Course.last (looks : LooksOnce action)
    (ends : Ends (Attempt.of action world).outcome choices.head?.join)
    (outcome : ended.1 = (Attempt.of action world).outcome)
    (prompts : ended.2.1.messages = asked ++ (Attempt.of action world).shown?.toList)
    (same : (Attempt.of action world).after.SameOutside ended.2.2) :
    Course action choices tokens asked world ended [.of action world] where
  first := rfl
  attempted := by
    intro attempt member
    rw [List.mem_singleton.mp member]
    rfl
  stops := by
    intro index inside
    obtain rfl : index = 0 := by simpa using inside
    rw [← List.head?_eq_getElem?]
    exact iff_of_true ends rfl
  outcome := congrArg some outcome.symm
  prompts := by
    rw [prompts]
    cases shown : (Attempt.of action world).shown? <;> simp [shown]
  token := by
    intro index inside
    obtain rfl : index = 0 := by simpa using inside
    rfl
  faults := by
    intro attempt member
    rw [List.mem_singleton.mp member]
    rfl
  writes := by
    have after : (Attempt.of action world).after.keyring = world.keyring.told .get := looks world
    rw [same.keyring, after, Keyring.writes_told_get]
    simp [updates]
  requests := by
    rw [same.requests, Attempt.requests_after]
    simp

theorem Course.ne_nil (course : Course action choices tokens asked world ended attempts) :
    attempts ≠ [] := by
  rintro rfl
  cases course.first

/-- What a failure leads to that the user does not give up after: the tokens given for it, and the
world in which the next attempt begins. -/
structure GoesOn (action : Action α) (choice : Choice) (tokens left given : List (Option String))
    (world next : World) : Prop where
  split : ∀ rest count, updates (some choice :: rest) tokens (count + 1)
    = given ++ updates rest left count
  token : next.keyring.token = given.foldl world.keyring.faults.renewed world.keyring.token
  faults : next.keyring.faults = world.keyring.faults
  writes : next.keyring.writes = world.keyring.writes ++ given.filterMap callOf
  requests : next.requests = (Attempt.of action world).after.requests

/-- **A run with one more attempt before it.** -/
theorem Course.again {failure : Failure} {choice : Choice} {left given : List (Option String)}
    {next : World} (failed : (Attempt.of action world).outcome = .error failure)
    (ordinary : failure.isOrdinary = true) (wish : choice ≠ .dismiss)
    (goesOn : GoesOn action choice tokens left given world next)
    (course : Course action choices left (asked ++ [failureMessage failure]) next ended attempts) :
    Course action (some choice :: choices) tokens asked world ended
      (.of action world :: attempts) where
  first := rfl
  attempted := by
    intro attempt member
    rcases List.mem_cons.mp member with rfl | later
    · rfl
    · exact course.attempted attempt later
  stops := by
    intro index inside
    cases index with
    | zero =>
      have more : attempts.length ≠ 0 := fun none => course.ne_nil (List.length_eq_zero_iff.mp none)
      have goes : ¬ Ends (Attempt.of action world).outcome (some choice) := by
        rw [failed]
        simp [Ends, ordinary, wish]
      exact iff_of_false goes (by simpa using more)
    | succ index =>
      have inside : index < attempts.length := by simpa using inside
      simpa using course.stops index inside
  outcome := by
    rw [List.getLast?_cons_of_ne_nil course.ne_nil]
    exact course.outcome
  prompts := by
    have shown : (Attempt.of action world).shown? = some (failureMessage failure) := by
      unfold Attempt.shown?
      rw [failed]
      exact if_pos ordinary
    rw [course.prompts, List.filterMap_cons_some shown, List.append_assoc]
    rfl
  token := by
    intro index inside
    cases index with
    | zero => rfl
    | succ index =>
      have inside : index < attempts.length := by simpa using inside
      rw [goesOn.split, List.foldl_append, ← goesOn.token, ← goesOn.faults]
      exact course.token index inside
  faults := by
    intro attempt member
    rcases List.mem_cons.mp member with rfl | later
    · rfl
    · exact (course.faults attempt later).trans goesOn.faults
  writes := by
    obtain ⟨count, length⟩ := Nat.exists_eq_succ_of_ne_zero
      fun none => course.ne_nil (List.length_eq_zero_iff.mp none)
    have writes := course.writes
    rw [length] at writes
    rw [writes, goesOn.writes, List.length_cons, length]
    simp only [Nat.succ_eq_add_one, Nat.add_sub_cancel]
    rw [goesOn.split, List.filterMap_append, List.append_assoc]
  requests := by
    rw [course.requests, goesOn.requests, Attempt.requests_after, List.flatMap_cons,
      List.append_assoc]

theorem goesOn_retry (looks : LooksOnce action) (tokens : List (Option String)) {next : World}
    (same : (Attempt.of action world).after.SameOutside next) :
    GoesOn action .retry tokens tokens [] world next := by
  have keyring : next.keyring = world.keyring.told .get := same.keyring.trans (looks world)
  refine ⟨fun rest count => ?_, ?_, ?_, ?_, same.requests⟩
  · simp [updates]
  · rw [keyring]
    rfl
  · rw [keyring]
    rfl
  · rw [keyring, Keyring.writes_told_get]
    simp

theorem goesOn_renewToken (looks : LooksOnce action) {next : World}
    (keyring : next.keyring
      = ((Attempt.of action world).after.keyring.told .get).renew tokens.head?.join)
    (requests : next.requests = (Attempt.of action world).after.requests) :
    GoesOn action .renewToken tokens tokens.tail (tokens.take 1) world next := by
  have after : (Attempt.of action world).after.keyring = world.keyring.told .get := looks world
  rw [after] at keyring
  refine ⟨fun rest count => ?_, ?_, ?_, ?_, requests⟩
  · cases tokens with
    | nil => simp [updates]
    | cons token others => simp [updates]
  · rw [keyring]
    cases tokens <;> simp [KeyringFaults.renewed, callOf]
  · rw [keyring]
    simp
  · rw [keyring]
    cases tokens with
    | nil => simp [callOf]
    | cons token others => cases called : callOf token <;> simp [called]

end Runs

end Retry

/-! ### The loop -/

section Loop

variable {α : Type} {action : Action α} {dialog next : Dialog} {world after later : World}
  {failure other : Failure}

/-- A round that ends is the last one. -/
theorem withRetry_of_some {outcome : Except Failure α} {last : Dialog × World}
    (ended : scripted.round action (dialog, world) = (some outcome, last)) :
    withRetry action dialog world = (outcome, last) := by
  rw [withRetry]
  split
  · rename_i stopped
    rw [ended] at stopped
    cases stopped
    rfl
  · rename_i again
    rw [ended] at again
    cases again

theorem withRetry_of_none (again : scripted.round action (dialog, world) = (none, next, after)) :
    withRetry action dialog world = withRetry action next after := by
  rw [withRetry]
  split
  · rename_i stopped
    rw [again] at stopped
    cases stopped
  · rename_i goesOn
    rw [again] at goesOn
    cases goesOn
    rfl

theorem withRetry_of_ok {value : α} (done : world.attempt action = (.ok value, after)) :
    withRetry action dialog world = (.ok value, dialog, after) :=
  withRetry_of_some (by rw [round_scripted, done])

theorem withRetry_of_stop (failed : world.attempt action = (.error failure, after))
    (stop : afterFailure failure dialog after = .stop other next later) :
    withRetry action dialog world = (.error other, next, later) :=
  withRetry_of_some (by simp only [round_scripted, failed, stop])

theorem withRetry_of_again (failed : world.attempt action = (.error failure, after))
    (again : afterFailure failure dialog after = .again next later) :
    withRetry action dialog world = withRetry action next later :=
  withRetry_of_none (by simp only [round_scripted, failed, again])

end Loop

namespace Retry

variable {α : Type} {action : Action α}

/-- A run goes on after a failure that is no interruption, by one of two wishes. -/
theorem exists_failure_of_not_ends {outcome : Except Failure α} {answer : Option Choice}
    (goesOn : ¬ Ends outcome answer) :
    ∃ failure, outcome = .error failure ∧ failure.isOrdinary = true
      ∧ (answer = some .retry ∨ answer = some .renewToken) := by
  cases outcome with
  | ok value => exact absurd trivial goesOn
  | error failure =>
    obtain ⟨ordinary, given, kept⟩ : failure.isOrdinary = true ∧ answer ≠ none
        ∧ answer ≠ some .dismiss := by simpa [Ends] using goesOn
    refine ⟨failure, rfl, ordinary, ?_⟩
    cases answer with
    | none => exact absurd rfl given
    | some choice =>
      cases choice with
      | renewToken => exact .inr rfl
      | retry => exact .inl rfl
      | dismiss => exact absurd rfl kept

/-- A run that ends with its first attempt. -/
theorem course_of_ends (looks : LooksOnce action) (choices : List (Option Choice))
    (tokens : List (Option String)) (messages : List String)
    (requests : List (Option String × String)) {world : World}
    (ends : Ends (Attempt.of action world).outcome choices.head?.join) :
    Course action choices tokens messages world
      (withRetry action ⟨.prepared choices tokens, messages, requests⟩ world)
      [.of action world] := by
  cases attempted : world.attempt action with
  | mk result after =>
    have outcome : (Attempt.of action world).outcome = result := congrArg Prod.fst attempted
    have left : (Attempt.of action world).after = after := congrArg Prod.snd attempted
    cases result with
    | ok value =>
      rw [withRetry_of_ok attempted]
      refine Course.last looks ends outcome.symm ?_ (left ▸ .refl _)
      simp [Attempt.shown?, outcome]
    | error failure =>
      rw [outcome] at ends
      by_cases ordinary : failure.isOrdinary = true
      · have gives : choices.head?.join = none ∨ choices.head?.join = some .dismiss := by
          rcases ends with interruption | gives
          · rw [ordinary] at interruption
            cases interruption
          · exact gives
        obtain ⟨next, later, stop, asked, same⟩ :=
          afterFailure_dismissed choices tokens messages requests ordinary gives
        rw [withRetry_of_stop attempted stop]
        refine Course.last looks (outcome ▸ ends) outcome.symm ?_ (left ▸ same)
        simp [Attempt.shown?, outcome, ordinary, asked]
      · have interruption : failure.isOrdinary = false := by simpa using ordinary
        rw [withRetry_of_stop attempted (afterFailure_of_interruption interruption _)]
        refine Course.last looks (outcome ▸ ends) outcome.symm ?_ (left ▸ .refl _)
        simp [Attempt.shown?, outcome, interruption]

/-- **Every run by prepared answers is a course of attempts.** -/
theorem exists_course (looks : LooksOnce action) (choices : List (Option Choice))
    (tokens : List (Option String)) (messages : List String)
    (requests : List (Option String × String)) (world : World)
    (own : world.keyring.faults.AreOwn) :
    ∃ attempts, Course action choices tokens messages world
      (withRetry action ⟨.prepared choices tokens, messages, requests⟩ world) attempts := by
  -- by induction on the choices: every further attempt uses one up
  induction choices generalizing tokens messages requests world with
  | nil =>
    have ends : Ends (Attempt.of action world).outcome none := by
      unfold Ends
      split
      · trivial
      · exact .inr (.inl rfl)
    exact ⟨_, course_of_ends looks [] tokens messages requests ends⟩
  | cons choice rest ih =>
    by_cases ends : Ends (Attempt.of action world).outcome choice
    · exact ⟨_, course_of_ends looks (choice :: rest) tokens messages requests ends⟩
    · obtain ⟨failure, failed, ordinary, wish⟩ := exists_failure_of_not_ends ends
      have attempted : world.attempt action = (.error failure, (Attempt.of action world).after) :=
        Prod.ext failed rfl
      have ownAfter : (Attempt.of action world).after.keyring.faults.AreOwn :=
        (congrArg Keyring.faults (looks world)) ▸ own
      rcases wish with rfl | rfl
      · obtain ⟨next, again, same⟩ :=
          afterFailure_retry rest tokens messages requests ordinary
            (Attempt.of action world).after
        have goesOn := goesOn_retry looks tokens same
        obtain ⟨attempts, course⟩ := ih tokens (messages ++ [failureMessage failure]) requests next
          (goesOn.faults ▸ own)
        rw [withRetry_of_again attempted again]
        exact ⟨_, course.again failed ordinary nofun goesOn⟩
      · obtain ⟨asked, next, again, keyring, sent⟩ :=
          afterFailure_renewToken rest tokens messages requests ordinary ownAfter
        have goesOn := goesOn_renewToken looks keyring sent
        obtain ⟨attempts, course⟩ := ih tokens.tail (messages ++ [failureMessage failure]) asked
          next (goesOn.faults ▸ own)
        rw [withRetry_of_again attempted again]
        exact ⟨_, course.again failed ordinary nofun goesOn⟩

end Retry

end AssetFetch
