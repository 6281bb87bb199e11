/-
**The token in the keyring.**

* `KeyringFaults.AreOwn`: the failures of a keyring are of the kind that the token store expects;
* `Keyring.told`, `Keyring.readable`: a keyring after a call, and the token that it shows;
* `attempt_get`, `attempt_set`: what the token store answers, and the keyring after it;
* `attempt_storeAnswer`: what becomes of an answer to the question for a token.
-/

import AssetFetch.Proofs.Runs
import AssetFetch.Retry

namespace AssetFetch

/-! ### Keyrings -/

/-- Every failure is one of the keyring itself. -/
def KeyringFaults.AreOwn (faults : KeyringFaults) : Prop :=
  ∀ failure, faults.get = some failure ∨ faults.set = some failure ∨ faults.delete = some failure →
    ∃ fault, failure = .keyring fault

/-- The token after a call, by the token before it. A call that fails leaves it as it is. -/
def KeyringFaults.tokenAfter (faults : KeyringFaults) (token : Option String) :
    KeyringAction → Option String
  | .get => token
  | .set other => if faults.set.isSome then token else some other
  | .delete => if faults.delete.isSome then token else .none

namespace Keyring

/-- The keyring after a call. -/
def told (keyring : Keyring) (action : KeyringAction) : Keyring :=
  { keyring with
    token := keyring.faults.tokenAfter keyring.token action
    calls := keyring.calls ++ [action] }

/-- The calls that were to change the token. -/
def writes (keyring : Keyring) : List KeyringAction :=
  keyring.calls.filter (· ≠ .get)

/-- The token that can be read. -/
def readable (keyring : Keyring) : Option String :=
  if keyring.faults.get.isSome then none else keyring.token

end Keyring

/-! ### Calls -/

section Calls

variable {world : World}

theorem World.keyring_onKeyring (world : World) (action : KeyringAction) :
    (world.onKeyring action).2.keyring = world.keyring.told action := by
  cases action with
  | get =>
    simp only [onKeyring]
    split <;> rfl
  | set token =>
    simp only [onKeyring, Keyring.told, KeyringFaults.tokenAfter]
    split
    · rename_i failure faulty
      rw [faulty]
      rfl
    · rename_i works
      rw [works]
      rfl
  | delete =>
    simp only [onKeyring, Keyring.told, KeyringFaults.tokenAfter]
    split
    · rename_i failure faulty
      rw [faulty]
      rfl
    · rename_i works nothing
      simp [works, nothing, noteCall]
    · rename_i works _
      rw [works]
      rfl

theorem attempt_asking {α : Type} (action : KeyringAction) (onReply : action.Result → α)
    (onFault : KeyringFault → Action α) (world : World) :
    world.attempt (TokenStore.asking action onReply onFault)
      = match world.onKeyring action with
        | (.ok reply, later) => (.ok (onReply reply), later)
        | (.error (.keyring fault), later) => later.attempt (onFault fault)
        | (.error failure, later) => (.error failure, later) := by
  have called : world.attempt (.attempt (perform (.keyring action))) = world.onKeyring action := rfl
  unfold TokenStore.asking
  rw [World.attempt_orElse, World.attempt_bind, called]
  cases world.onKeyring action with
  | mk result later =>
    cases result with
    | ok reply => rfl
    | error failure => cases failure <;> rfl

/-- Asking the keyring is one call, whatever comes of it. -/
theorem keyring_asking {α : Type} {action : KeyringAction} {onReply : action.Result → α}
    {onFault : KeyringFault → Action α} (plain : ∀ fault, (onFault fault).Only Effect.IsPlain)
    (world : World) :
    (world.attempt (TokenStore.asking action onReply onFault)).2.keyring
      = world.keyring.told action := by
  have keyring := world.keyring_onKeyring action
  rw [attempt_asking]
  cases replied : world.onKeyring action with
  | mk result later =>
    rw [replied] at keyring
    cases result with
    | ok reply => exact keyring
    | error failure =>
      cases failure with
      | keyring fault => exact (World.keyring_run (plain fault) later).trans keyring
      | _ => exact keyring

theorem keyring_get (world : World) :
    (world.attempt TokenStore.get).2.keyring = world.keyring.told .get :=
  keyring_asking (fun _ => .bind (only_log ..).plain fun _ => .pure _) world

/-- A line for the log before an answer adds nothing to it. -/
theorem attempt_log_then {α : Type} (severity : Severity) (logger message : String) (value : α)
    (world : World) :
    ∃ later, world.attempt (do AssetFetch.log severity logger message; return value : Action α)
        = (.ok value, later) ∧ world.SameOutside later := by
  rw [World.attempt_bind, World.attempt_log]
  exact ⟨_, rfl, World.sameOutside_run_log ..⟩

/-- Whatever call fails, the failure is the keyring's own. -/
theorem exists_fault_of_error {failure : Failure} (own : world.keyring.faults.AreOwn)
    (action : KeyringAction) (failed : (world.onKeyring action).1 = .error failure) :
    ∃ fault, failure = .keyring fault := by
  cases action with
  | get =>
    simp only [World.onKeyring] at failed
    split at failed
    · rename_i other faulty
      cases failed
      exact own _ (.inl faulty)
    · cases failed
  | set token =>
    simp only [World.onKeyring] at failed
    split at failed
    · rename_i other faulty
      cases failed
      exact own _ (.inr (.inl faulty))
    · cases failed
  | delete =>
    simp only [World.onKeyring] at failed
    split at failed
    · rename_i other faulty
      cases failed
      exact own _ (.inr (.inr faulty))
    · cases failed
      exact ⟨_, rfl⟩
    · cases failed

/-- **A call whose failures are the keyring's own** is answered, and nothing but the call has
happened to the keyring and the requests. -/
theorem attempt_asking_of_own {α : Type} (action : KeyringAction) {onReply : action.Result → α}
    {onFault : KeyringFault → Action α} (value : Except Failure action.Result → α)
    (own : world.keyring.faults.AreOwn) (replies : ∀ reply, value (.ok reply) = onReply reply)
    (faults : ∀ fault later, ∃ after,
      World.attempt (onFault fault) later = (.ok (value (.error (.keyring fault))), after)
        ∧ later.SameOutside after) :
    ∃ later, world.attempt (TokenStore.asking action onReply onFault)
        = (.ok (value (world.onKeyring action).1), later)
      ∧ later.keyring = world.keyring.told action ∧ later.requests = world.requests := by
  have keyring := world.keyring_onKeyring action
  have requests : (world.onKeyring action).2.requests = world.requests :=
    World.requests_onKeyring action
  have expected : ∀ failure, (world.onKeyring action).1 = .error failure →
      ∃ fault, failure = .keyring fault := fun _ => exists_fault_of_error own action
  rw [attempt_asking]
  cases replied : world.onKeyring action with
  | mk result later =>
    rw [replied] at keyring requests expected
    cases result with
    | ok reply => exact ⟨later, by rw [replies], keyring, requests⟩
    | error failure =>
      obtain ⟨fault, rfl⟩ := expected failure rfl
      obtain ⟨after, answered, same⟩ := faults fault later
      exact ⟨after, answered, same.keyring.trans keyring, same.requests.trans requests⟩

theorem readable_eq (world : World) :
    (world.onKeyring .get).1.toOption.join = world.keyring.readable := by
  simp only [World.onKeyring, Keyring.readable]
  cases world.keyring.faults.get <;> rfl

/-- **The token store answers with the token that can be read**, after one look at the keyring. -/
theorem attempt_get (own : world.keyring.faults.AreOwn) :
    ∃ later, world.attempt TokenStore.get = (.ok world.keyring.readable, later)
      ∧ later.keyring = world.keyring.told .get ∧ later.requests = world.requests := by
  rw [← readable_eq]
  exact attempt_asking_of_own .get (fun result => result.toOption.join) own (fun _ => rfl)
    fun _ _ => attempt_log_then ..

/-- Whether a token counts as deleted by what the keyring replies. -/
def countsAsDeleted : Except Failure Unit → Bool
  | .ok _ => true
  | .error (.keyring fault) => fault.kind == .nothingToDelete
  | .error _ => false

/-- **A token is stored** by one call of the keyring, and the answer is whether that succeeds. -/
theorem attempt_store (own : world.keyring.faults.AreOwn) (token : String) :
    ∃ later, world.attempt (TokenStore.set (some token))
        = (.ok (world.onKeyring (.set token)).1.isOk, later)
      ∧ later.keyring = world.keyring.told (.set token) ∧ later.requests = world.requests :=
  attempt_asking_of_own (.set token) Except.isOk own (fun _ => rfl) fun _ _ => attempt_log_then ..

/-- **The token is deleted** by one call of the keyring, and the answer is whether it counts as
deleted. -/
theorem attempt_delete (own : world.keyring.faults.AreOwn) :
    ∃ later, world.attempt TokenStore.delete
        = (.ok (countsAsDeleted (world.onKeyring .delete).1), later)
      ∧ later.keyring = world.keyring.told .delete ∧ later.requests = world.requests := by
  refine attempt_asking_of_own .delete countsAsDeleted own (fun _ => rfl) fun fault later => ?_
  cases nothing : fault.kind == .nothingToDelete with
  | true =>
    simp only [countsAsDeleted, nothing]
    exact ⟨later, rfl, .refl later⟩
  | false =>
    simp only [countsAsDeleted, nothing]
    exact attempt_log_then ..

/-- **Storing a token or none is one call of the keyring.** -/
theorem attempt_set (own : world.keyring.faults.AreOwn) (token : Option String) :
    ∃ stored later, world.attempt (TokenStore.set token) = (.ok stored, later)
      ∧ later.keyring = world.keyring.told (match token with
        | some token => .set token
        | none => .delete)
      ∧ later.requests = world.requests := by
  cases token with
  | some token => exact ⟨_, attempt_store own token⟩
  | none => exact ⟨_, attempt_delete own⟩

/-- The call that an answer to the question for a token comes to, if any. -/
def Retry.callOf (answer : Option String) : Option KeyringAction :=
  answer.map fun token => if token = "" then .delete else .set token

/-- The token after an answer to the question for one, by the token before it. -/
def KeyringFaults.renewed (faults : KeyringFaults) (token answer : Option String) : Option String :=
  match Retry.callOf answer with
  | .some call => faults.tokenAfter token call
  | .none => token

namespace Keyring

/-- The keyring after an answer to the question for a token. -/
def renew (keyring : Keyring) (answer : Option String) : Keyring :=
  (Retry.callOf answer).toList.foldl told keyring

@[simp]
theorem token_told_get (keyring : Keyring) : (keyring.told .get).token = keyring.token :=
  rfl

@[simp]
theorem faults_told (keyring : Keyring) (call : KeyringAction) :
    (keyring.told call).faults = keyring.faults :=
  rfl

@[simp]
theorem writes_told_get (keyring : Keyring) : (keyring.told .get).writes = keyring.writes := by
  simp [writes, told]

@[simp]
theorem token_renew (keyring : Keyring) (answer : Option String) :
    (keyring.renew answer).token = keyring.faults.renewed keyring.token answer := by
  unfold renew KeyringFaults.renewed
  cases Retry.callOf answer <;> rfl

@[simp]
theorem faults_renew (keyring : Keyring) (answer : Option String) :
    (keyring.renew answer).faults = keyring.faults := by
  unfold renew
  cases Retry.callOf answer <;> rfl

/-- An answer is written once, and no answer not at all. -/
@[simp]
theorem writes_renew (keyring : Keyring) (answer : Option String) :
    (keyring.renew answer).writes = keyring.writes ++ (Retry.callOf answer).toList := by
  cases answer with
  | none => simp [renew, Retry.callOf]
  | some token => by_cases empty : token = "" <;> simp [renew, Retry.callOf, writes, told, empty]

end Keyring

/-- **An answer is stored by one call of the keyring**, and no answer by none. -/
theorem attempt_storeAnswer (own : world.keyring.faults.AreOwn) (answer : Option String) :
    ∃ later, world.attempt (Retry.storeAnswer answer) = (.ok (), later)
      ∧ later.keyring = world.keyring.renew answer
      ∧ later.requests = world.requests := by
  have stores : ∀ message token, ∃ later,
      world.attempt (do log .info Retry.logger message; discard (TokenStore.set token))
          = (.ok (), later)
        ∧ later.keyring = world.keyring.told (match token with
          | some token => .set token
          | none => .delete)
        ∧ later.requests = world.requests := by
    intro message token
    have same := World.sameOutside_run_log .info Retry.logger message world
    rw [World.attempt_bind, World.attempt_log]
    generalize (world.run (logLine .info Retry.logger message)).2 = logged at same
    have ownLogged : logged.keyring.faults.AreOwn := by rw [same.keyring]; exact own
    obtain ⟨stored, later, answered, keyring, requests⟩ := attempt_set ownLogged token
    rw [same.keyring] at keyring
    exact ⟨later, World.attempt_bind_of_ok answered, keyring, requests.trans same.requests⟩
  unfold Retry.storeAnswer Keyring.renew Retry.callOf
  split
  · exact ⟨world, rfl, rfl, rfl⟩
  · exact stores _ none
  · rename_i token nonempty
    rw [Option.map_some, if_neg nonempty]
    exact stores _ (some token)

end Calls

end AssetFetch
