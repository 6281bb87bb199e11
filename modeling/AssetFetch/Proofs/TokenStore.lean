/-
**What the token store reports.**

Every call of the token store is one call of the keyring. The keyring may meet it with any failure
of its own, and then the token stays as it is. What the token store answers is the truth about that,
but for one case: a keyring may refuse to delete a token in the words in which it says that there is
none, and the token store believes them without looking.

* `TokenCall`, `TokenStore.session`: calls one after the other, each met with a failure or with
  none;
* `TokenReport.IsSound`, `TokenReport.IsTrue`: what a call answers agrees with the keyring before
  and after it, but for deletions, and in every case;
* `TokenReport.IsMistaken`: a deletion is refused in those words although there is a token;
* `reports_true_iff`: **every call of a session is answered soundly, and truly exactly if it is not
  mistaken**;
* `refused_deletion_is_reported_done`: such a mistake.
-/

import AssetFetch.Proofs.Keyring

namespace AssetFetch

open World

/-! ### Sessions -/

/-- What can be asked of the token store. -/
inductive TokenCall where
  | get
  | set (token : Option String)
  | delete

/-- What is to be in the keyring when a call has been carried out, if it is to change that. -/
def TokenCall.goal? : TokenCall → Option (Option String)
  | .get => none
  | .set token => some token
  | .delete => some none

/-- What the token store answers: the token that it has found, or whether something is done. -/
inductive TokenAnswer where
  | found (token : Option String)
  | done (isDone : Bool)

/-- A call that has been made: the failure that the keyring has met it with, the outcome, and the
token in the keyring before and after it. -/
structure TokenReport where
  call : TokenCall
  fault : Option KeyringFault
  before : Option String
  outcome : Except Failure TokenAnswer
  after : Option String

/-- Every call fails with a failure of the keyring, or none does. -/
def KeyringFaults.all (fault : Option KeyringFault) : KeyringFaults :=
  ⟨fault.map .keyring, fault.map .keyring, fault.map .keyring⟩

theorem KeyringFaults.areOwn_all (fault : Option KeyringFault) : (all fault).AreOwn := by
  intro failure met
  obtain ⟨own, _, rfl⟩ : ∃ own, fault = some own ∧ Failure.keyring own = failure := by
    simpa [all] using met
  exact ⟨own, rfl⟩

/-- The world in which the keyring meets calls with a failure, or with none. -/
def World.withKeyringFault (world : World) (fault : Option KeyringFault) : World :=
  { world with keyring := { world.keyring with faults := .all fault } }

namespace TokenStore

/-- Does what is asked. -/
def call : TokenCall → Action TokenAnswer
  | .get => do return .found (← get)
  | .set token => do return .done (← set token)
  | .delete => do return .done (← delete)

/-- What comes of a call that is met with a failure or with none. -/
def report (asked : TokenCall) (fault : Option KeyringFault) (world : World) : TokenReport :=
  let ran := (world.withKeyringFault fault).attempt (call asked)
  ⟨asked, fault, world.keyring.token, ran.1, ran.2.keyring.token⟩

/-- The calls of a session, one after the other, each met with a failure of its own or with none. -/
def session : List (TokenCall × Option KeyringFault) → World → List TokenReport
  | [], _ => []
  | (asked, fault) :: rest, world =>
    report asked fault world
      :: session rest ((world.withKeyringFault fault).attempt (call asked)).2

end TokenStore

/-! ### True answers -/

namespace TokenReport

/-- What a call answers is sound: there is an answer; what the keyring does not refuse is done; a
token that is found is in the keyring; one that has been stored is; and where nothing is done, the
keyring is as before. -/
structure IsSound (report : TokenReport) : Prop where
  answered : ∃ answer, report.outcome = .ok answer
  carried : report.fault = none → report.call.goal?.isSome → report.outcome = .ok (.done true)
  found : ∀ token, report.outcome = .ok (.found token) →
    report.after = report.before ∧ ∀ text ∈ token, report.before = some text
  stored : ∀ token, report.call.goal? = some (some token) → report.outcome = .ok (.done true) →
    report.after = some token
  undone : report.outcome = .ok (.done false) → report.after = report.before

/-- What a call answers is true: it is sound, and where a token has been deleted there is none. -/
structure IsTrue (report : TokenReport) : Prop extends report.IsSound where
  deleted : report.call.goal? = some none → report.outcome = .ok (.done true) →
    report.after = none

/-- The keyring has a token and refuses to delete it, as it does when it has none. -/
def IsMistaken (report : TokenReport) : Prop :=
  report.call.goal? = some none ∧ (∃ fault ∈ report.fault, fault.kind = .nothingToDelete)
    ∧ report.before.isSome

end TokenReport

namespace TokenStore

/-- What a call answers in the end. -/
theorem attempt_answer {α : Type} {action : Action α} {answer : α → TokenAnswer} {value : α}
    {world later : World} (ran : world.attempt action = (.ok value, later)) :
    world.attempt (do return answer (← action)) = (.ok (answer value), later) :=
  attempt_bind_of_ok ran

/-- **Reading the token**: what is found is the token, and nothing if the keyring fails. -/
theorem report_get (fault : Option KeyringFault) (world : World) :
    report .get fault world = ⟨.get, fault, world.keyring.token,
      .ok (.found (if fault.isSome then none else world.keyring.token)), world.keyring.token⟩ := by
  have own : (world.withKeyringFault fault).keyring.faults.AreOwn := KeyringFaults.areOwn_all fault
  obtain ⟨later, ran, keyring, _⟩ := attempt_get own
  simp only [report, call, attempt_answer ran, keyring, Keyring.token_told_get]
  cases fault <;> rfl

/-- **Storing a token** is done unless the keyring fails. -/
theorem report_store (token : String) (fault : Option KeyringFault) (world : World) :
    report (.set (some token)) fault world = ⟨.set (some token), fault, world.keyring.token,
      .ok (.done fault.isNone), if fault.isSome then world.keyring.token else some token⟩ := by
  have own : (world.withKeyringFault fault).keyring.faults.AreOwn := KeyringFaults.areOwn_all fault
  obtain ⟨later, ran, keyring, _⟩ := attempt_store own token
  simp only [report, call, attempt_answer ran, keyring]
  cases fault <;> rfl

/-- A deletion is reported as done if it succeeds, and if the keyring says that there is nothing to
delete. -/
def reportsDeleted : Option KeyringFault → Bool
  | none => true
  | some fault => fault.kind == .nothingToDelete

theorem countsAsDeleted_onKeyring (fault : Option KeyringFault) (world : World) :
    countsAsDeleted ((world.withKeyringFault fault).onKeyring .delete).1
      = reportsDeleted fault := by
  cases fault with
  | some fault => rfl
  | none =>
    -- without a failure the keyring refuses only where nothing is stored
    cases stored : world.keyring.token with
    | none => simp [onKeyring, withKeyringFault, KeyringFaults.all, stored, countsAsDeleted,
        nothingToDelete, reportsDeleted]
    | some token => simp [onKeyring, withKeyringFault, KeyringFaults.all, stored, countsAsDeleted,
        reportsDeleted]

/-- What a deletion comes to: the token goes unless the keyring fails. -/
def deletion (asked : TokenCall) (fault : Option KeyringFault) (token : Option String) :
    TokenReport :=
  ⟨asked, fault, token, .ok (.done (reportsDeleted fault)), if fault.isSome then token else none⟩

/-- **Deleting the token**, or storing none in its place. -/
theorem report_deletion {asked : TokenCall} (goal : asked.goal? = some none)
    (fault : Option KeyringFault) (world : World) :
    report asked fault world = deletion asked fault world.keyring.token := by
  have own : (world.withKeyringFault fault).keyring.faults.AreOwn := KeyringFaults.areOwn_all fault
  obtain ⟨later, ran, keyring, _⟩ := attempt_delete own
  rw [countsAsDeleted_onKeyring] at ran
  have called : (world.withKeyringFault fault).attempt (call asked)
      = (.ok (.done (reportsDeleted fault)), later) := by
    cases asked with
    | get => cases goal
    | set token =>
      cases goal
      exact attempt_answer ran
    | delete => exact attempt_answer ran
  simp only [report, deletion, called, keyring]
  cases fault <;> rfl

/-- **A deletion** is answered soundly, and truly unless a keyring with a token says that it has
none. -/
theorem isTrue_deletion_iff {asked : TokenCall} (goal : asked.goal? = some none)
    (fault : Option KeyringFault) (token : Option String) :
    (deletion asked fault token).IsSound
      ∧ ((deletion asked fault token).IsTrue ↔ ¬ (deletion asked fault token).IsMistaken) := by
  have sound : (deletion asked fault token).IsSound := by
    refine ⟨⟨_, rfl⟩, fun works _ => ?_, nofun, fun other wish => ?_, fun undone => ?_⟩
    · rw [deletion, show fault = none from works]
      rfl
    · cases goal.symm.trans wish
    · cases fault with
      | none => cases undone
      | some fault => rfl
  refine ⟨sound, fun isTrue => ?_, fun honest => ⟨sound, fun _ done => ?_⟩⟩
  · rintro ⟨_, ⟨met, among, nothing⟩, stored⟩
    obtain rfl : fault = some met := among
    have isDone : reportsDeleted (some met) = true := by simp [reportsDeleted, nothing]
    have none : token = none := isTrue.deleted goal (by rw [deletion, isDone])
    rw [none] at stored
    cases stored
  · cases fault with
    | none => rfl
    | some met =>
      have nothing : met.kind = .nothingToDelete := by
        simpa [deletion, reportsDeleted] using done
      show token = none
      cases token with
      | none => rfl
      | some text => exact absurd ⟨goal, ⟨met, rfl, nothing⟩, rfl⟩ honest

/-- Where nothing is to be deleted, no call is mistaken. -/
theorem isTrue_of_sound {report : TokenReport} (kept : report.call.goal? ≠ some none)
    (sound : report.IsSound) : report.IsSound ∧ (report.IsTrue ↔ ¬ report.IsMistaken) :=
  ⟨sound, fun _ mistaken => kept mistaken.1, fun _ => ⟨sound, fun deletes => absurd deletes kept⟩⟩

/-- **One call** is answered soundly, and truly unless it is mistaken. -/
theorem report_isTrue_iff (asked : TokenCall) (fault : Option KeyringFault) (world : World) :
    (report asked fault world).IsSound
      ∧ ((report asked fault world).IsTrue ↔ ¬ (report asked fault world).IsMistaken) := by
  cases asked with
  | get =>
    rw [report_get]
    refine isTrue_of_sound nofun ⟨⟨_, rfl⟩, nofun, fun token read => ⟨rfl, ?_⟩, nofun, nofun⟩
    cases read
    cases fault with
    | none => exact fun _ => id
    | some fault => nofun
  | set token =>
    cases token with
    | none =>
      rw [report_deletion rfl]
      exact isTrue_deletion_iff rfl fault world.keyring.token
    | some token =>
      rw [report_store]
      refine isTrue_of_sound nofun ⟨⟨_, rfl⟩, fun works _ => ?_, nofun, fun other wish done => ?_,
        fun undone => ?_⟩
      · rw [show fault = none from works]
        rfl
      · cases wish
        cases fault with
        | none => rfl
        | some fault => cases done
      · cases fault with
        | none => cases undone
        | some fault => rfl
  | delete =>
    rw [report_deletion rfl]
    exact isTrue_deletion_iff rfl fault world.keyring.token

/-- **Every call of a session is answered soundly, and truly** unless a keyring with a token has
refused to delete it in the words for having none. -/
theorem reports_true_iff (calls : List (TokenCall × Option KeyringFault)) (world : World) :
    ∀ report ∈ session calls world,
      report.IsSound ∧ (report.IsTrue ↔ ¬ report.IsMistaken) := by
  induction calls generalizing world with
  | nil => exact fun _ inside => absurd inside List.not_mem_nil
  | cons first rest ih =>
    obtain ⟨asked, fault⟩ := first
    exact List.forall_mem_cons.mpr ⟨report_isTrue_iff asked fault world, ih _⟩

/-- A token that is stored, and a keyring that is locked when it is to be deleted. -/
def exampleCalls : List (TokenCall × Option KeyringFault) :=
  [(.set (some "new"), none), (.delete, some ⟨.locked, "locked"⟩)]

theorem reports_true_iff_locked :
    ∃ report ∈ session exampleCalls .empty,
      report.before = some "new" ∧ report.outcome = .ok (.done false) ∧ report.IsTrue := by
  have second := reports_true_iff exampleCalls .empty _ (List.mem_cons_of_mem _ List.mem_cons_self)
  refine ⟨_, List.mem_cons_of_mem _ List.mem_cons_self, rfl, rfl, second.2.mpr ?_⟩
  rintro ⟨_, ⟨fault, met, nothing⟩, _⟩
  cases met
  cases nothing

/-- A keyring with a token refuses to delete it in the words for having none. The answer is that the
token is deleted, and it is still there. -/
theorem refused_deletion_is_reported_done :
    ∃ report, session [(.delete, some ⟨.nothingToDelete, "denied"⟩)] (World.empty.withToken "old")
        = [report]
      ∧ report.outcome = .ok (.done true) ∧ report.after = some "old" ∧ ¬ report.IsTrue := by
  refine ⟨_, rfl, rfl, rfl, fun isTrue => ?_⟩
  cases isTrue.deleted rfl rfl

end TokenStore

end AssetFetch
