/-
**Worlds that differ in a secret.**

The secret is the token: the one in the keyring, and those that lookups have sent.

* `TokensAlike`, `Request.Alike`, `World.Alike`: tokens that are both missing, both empty or both
  neither, requests that are the same up to the token of a lookup, and worlds that are the same up
  to these;
* `World.answer_besides`: what neither uses the keyring nor sends anything gives the same whatever
  is in the keyring and whatever has been sent;
* `alike_run`: **a program that does without the keyring comes to the same in worlds that are
  alike**, and leaves worlds that are alike;
* `Action.Alike`: two actions of which this is true, up to a relation between what they give; closed
  under sequence and `orElse`.
-/

import AssetFetch.Proofs.Local

namespace AssetFetch

/-! ### Secrets -/

/-- Tokens of which an onlooker can tell no more than whether there is one, and whether it is
empty. -/
inductive TokensAlike : Option String → Option String → Prop where
  | absent : TokensAlike none none
  | empty : TokensAlike (some "") (some "")
  | present {first second : String} (given : first ≠ "") (other : second ≠ "") :
      TokensAlike (some first) (some second)

namespace TokensAlike

variable {first second : Option String}

/-- Both say something or neither does. -/
theorem isEmpty_eq (alike : TokensAlike first second) :
    (first.getD "").isEmpty = (second.getD "").isEmpty := by
  cases alike with
  | absent | empty => rfl
  | present given other =>
    rw [Option.getD_some, Option.getD_some, Bool.eq_iff_iff, String.isEmpty_iff, String.isEmpty_iff]
    exact iff_of_false given other

end TokensAlike

/-- Requests that are the same up to the token with which a release is looked up. -/
inductive Request.Alike : Request → Request → Prop where
  | same (request : Request) : Alike request request
  | lookup (client : Client) (url first second : String) :
      Alike (Client.request { client with token := some first } url)
        (Client.request { client with token := some second } url)

/-- Clients that differ in their tokens ask alike. -/
theorem Client.alike_request (client : Client) (url : String) {first second : Option String}
    (alike : TokensAlike first second) :
    Request.Alike (Client.request { client with token := first } url)
      (Client.request { client with token := second } url) := by
  cases alike with
  | absent | empty => exact .same _
  | present => exact .lookup client url _ _

namespace World

/-- The world with another keyring, and with other requests sent. -/
def besides (world : World) (keyring : Keyring) (requests : List Request) : World :=
  { world with keyring, requests }

/-- Worlds that are the same up to the token in the keyring, the calls of the keyring, and the
tokens of lookups. -/
structure Alike (left right : World) : Prop where
  rest : right = left.besides right.keyring right.requests
  faults : left.keyring.faults = right.keyring.faults
  token : TokensAlike left.keyring.token right.keyring.token
  requests : List.Forall₂ Request.Alike left.requests right.requests

/-! ### Effects -/

section Effects

variable (world : World) (keyring : Keyring) (requests : List Request)

@[simp]
theorem besides_tree : (world.besides keyring requests).tree = world.tree := rfl

@[simp]
theorem besides_faults : (world.besides keyring requests).faults = world.faults := rfl

@[simp]
theorem besides_script : (world.besides keyring requests).script = world.script := rfl

@[simp]
theorem besides_setup : (world.besides keyring requests).setup = world.setup := rfl

@[simp]
theorem besides_logFile : (world.besides keyring requests).logFile = world.logFile := rfl

@[simp]
theorem besides_follower : (world.besides keyring requests).follower = world.follower := rfl

@[simp]
theorem besides_display : (world.besides keyring requests).display = world.display := rfl

theorem changing_besides (paths : List Path) (result : Except FileFault FileTree) :
    (world.besides keyring requests).changing paths result
      = ((world.changing paths result).1,
        (world.changing paths result).2.besides keyring requests) := by
  cases result <;> rfl

theorem withMode_besides (path : Path) (mode : Given Int)
    (result : Int → Except FileFault FileTree) :
    (world.besides keyring requests).withMode path mode result
      = ((world.withMode path mode result).1,
        (world.withMode path mode result).2.besides keyring requests) := by
  unfold withMode
  split
  · rfl
  · rfl
  · exact changing_besides ..
  · rfl
  · split
    · rfl
    · exact changing_besides ..

theorem withoutLogAt_besides (path : Path) :
    (world.besides keyring requests).withoutLogAt path
      = (world.withoutLogAt path).besides keyring requests := by
  simp only [withoutLogAt, besides_logFile, besides_tree]
  cases world.logFile with
  | none => rfl
  | some location =>
    cases world.tree.locate path with
    | error fault => rfl
    | ok place =>
      cases place with
      | fixed other => rfl
      | named other =>
        by_cases here : (location == other) = true
        · simp only [if_pos here]
          rfl
        · simp only [if_neg here]

theorem onFile_besides (action : FileAction) :
    (world.besides keyring requests).onFile action
      = ((world.onFile action).1, (world.onFile action).2.besides keyring requests) := by
  cases action with
  | create path mode => exact withMode_besides ..
  | overwrite path | append path bytes | makeDirectory path => exact changing_besides ..
  | flush path | close path => rfl
  | sync path =>
    simp only [onFile, besides_faults]
    cases world.faults.sync <;> rfl
  | setMode path mode =>
    simp only [onFile, besides_faults, besides_tree]
    cases world.faults.setMode with
    | some failure => rfl
    | none => exact withMode_besides ..
  | rename source target =>
    simp only [onFile, besides_faults, besides_tree, withoutLogAt_besides]
    cases world.faults.rename with
    | some failure => rfl
    | none => cases world.tree.rename source target <;> rfl
  | remove path =>
    simp only [onFile, besides_faults, besides_tree, withoutLogAt_besides]
    cases world.faults.remove with
    | some failure => rfl
    | none => cases world.tree.remove path <;> rfl
  | isDirectory path =>
    simp only [onFile, besides_tree]
    cases world.tree.status path <;> rfl
  | read path => rfl

theorem toConsole_besides (record : LogLine) (line : String) :
    (world.besides keyring requests).toConsole record line
      = (world.toConsole record line).besides keyring requests := by
  simp only [toConsole, besides_setup]
  cases world.setup.console with
  | none => rfl
  | some level =>
    by_cases reaches : level ≤ record.level.value
    · simp only [if_pos reaches]
      rfl
    · simp only [if_neg reaches]

theorem toLogFile_besides (record : LogLine) (line : String) :
    (world.besides keyring requests).toLogFile record line
      = (world.toLogFile record line).besides keyring requests := by
  simp only [toLogFile, besides_setup, besides_logFile]
  cases world.setup.file with
  | none => rfl
  | some file =>
    cases world.logFile with
    | none => rfl
    | some location =>
      by_cases reaches : file.1 ≤ record.level.value
      · simp only [if_pos reaches]
        rfl
      · simp only [if_neg reaches]

theorem log_besides (record : LogLine) :
    (world.besides keyring requests).log record = (world.log record).besides keyring requests := by
  let noted := { world with records := world.records ++ [record] }
  let line := record.written time ++ "\n"
  have written : ((noted.besides keyring requests).toConsole record line).toLogFile record line
      = ((noted.toConsole record line).toLogFile record line).besides keyring requests := by
    rw [toConsole_besides, toLogFile_besides]
  have left : (world.besides keyring requests).log record
      = if world.setup.accepts record = true then
          ((noted.besides keyring requests).toConsole record line).toLogFile record line
        else noted.besides keyring requests := rfl
  have right : world.log record = if world.setup.accepts record = true then
      (noted.toConsole record line).toLogFile record line else noted := rfl
  rw [left, right, written, apply_ite (besides · keyring requests)]

theorem report_besides (percent delta : Int) :
    (world.besides keyring requests).report percent delta
      = (world.report percent delta).besides keyring requests := by
  simp only [report, besides_display]
  cases world.display.line <;> rfl

theorem progress_besides (read total : Nat) :
    (world.besides keyring requests).progress read total
      = ((world.progress read total).1,
        (world.progress read total).2.besides keyring requests) := by
  simp only [progress, besides_follower]
  cases world.follower.failAt with
  | none => rfl
  | some failAt =>
    cases fails : failAt.1 == (world.follower.calls ++ [(read, total)]).length with
    | true =>
      simp only [fails, if_true]
      rfl
    | false =>
      simp only [fails, Bool.false_eq_true, if_false]
      rfl

theorem print_besides (text : Text.LooseText) :
    (world.besides keyring requests).print text
      = ((world.print text).1, (world.print text).2.besides keyring requests) := by
  unfold print
  cases text.unencodable? <;> rfl

theorem openLog_besides (path : Path) (level : Int) :
    (world.besides keyring requests).openLog path level
      = ((world.openLog path level).1, (world.openLog path level).2.besides keyring requests) := by
  simp only [openLog, besides_tree]
  cases world.tree.openForWriting path true <;> rfl

/-- **What neither uses the keyring nor sends anything** gives the same whatever is in the keyring
and whatever has been sent. -/
theorem answer_besides {effect : Effect} (keyless : effect.IsKeyless) (unsent : effect.IsUnsent) :
    (world.besides keyring requests).answer effect
      = ((world.answer effect).1, (world.answer effect).2.besides keyring requests) := by
  cases effect with
  | file action => exact onFile_besides ..
  | keyring action => exact keyless.elim
  | send request => exact absurd rfl (unsent request)
  | log record => exact Prod.ext rfl (log_besides ..)
  | openLog path level => exact openLog_besides ..
  | print text => exact print_besides ..
  | report percent delta => exact Prod.ext rfl (report_besides ..)
  | progress read total => exact progress_besides ..
  | _ => rfl

end Effects

/-! ### Worlds that are alike -/

section Worlds

variable {left right : World}

/-- Alike are worlds of which one is the other besides keyring and requests that are alike. -/
theorem Alike.exists_besides (alike : left.Alike right) :
    ∃ keyring requests, right = left.besides keyring requests
      ∧ left.keyring.faults = keyring.faults ∧ TokensAlike left.keyring.token keyring.token
      ∧ List.Forall₂ Request.Alike left.requests requests :=
  ⟨_, _, alike.rest, alike.faults, alike.token, alike.requests⟩

/-- What keeps the keyring and the requests leaves them alike. -/
theorem Alike.of_sameOutside {later : World} {keyring : Keyring} {requests : List Request}
    (alike : left.Alike (left.besides keyring requests)) (same : left.SameOutside later) :
    later.Alike (later.besides keyring requests) := by
  refine ⟨rfl, ?_, ?_, ?_⟩
  · rw [same.keyring]
    exact alike.faults
  · rw [same.keyring]
    exact alike.token
  · rw [same.requests]
    exact alike.requests

theorem Alike.output_eq (alike : left.Alike right) : left.output = right.output := by
  rw [alike.rest]
  rfl

theorem Alike.told_eq (alike : left.Alike right) : left.told = right.told := by
  rw [alike.rest]
  rfl

theorem Alike.records_eq (alike : left.Alike right) : left.records = right.records := by
  rw [alike.rest]
  rfl

theorem Alike.tree_eq (alike : left.Alike right) : left.tree = right.tree := by
  rw [alike.rest]
  rfl

theorem Alike.tell (alike : left.Alike right) (text : String) :
    (left.tell text).Alike (right.tell text) := by
  obtain ⟨keyring, requests, rfl, _⟩ := alike.exists_besides
  exact alike.of_sameOutside ⟨rfl, rfl⟩

/-- **Requests that are alike** meet the same. -/
theorem Alike.onSend (alike : left.Alike right) {first second : Request}
    (asks : first.Alike second) :
    (left.onSend first).1 = (right.onSend second).1
      ∧ (left.onSend first).2.Alike (right.onSend second).2 := by
  obtain ⟨keyring, requests, rfl, faults, token, sent⟩ := alike.exists_besides
  have more : List.Forall₂ Request.Alike (left.requests ++ [first]) (requests ++ [second]) :=
    List.rel_append sent (.cons asks .nil)
  simp only [World.onSend, besides_script]
  cases left.script with
  | nil => exact ⟨rfl, rfl, faults, token, more⟩
  | cons response script =>
    cases response <;> exact ⟨rfl, rfl, faults, token, more⟩

/-- **What does without the keyring** gives the same in worlds that are alike. -/
theorem Alike.answer (alike : left.Alike right) {effect : Effect} (keyless : effect.IsKeyless) :
    (left.answer effect).1 = (right.answer effect).1
      ∧ (left.answer effect).2.Alike (right.answer effect).2 := by
  by_cases unsent : effect.IsUnsent
  · obtain ⟨keyring, requests, rfl, _⟩ := alike.exists_besides
    have unused : ∀ action, effect ≠ .keyring action := by
      rintro action rfl
      exact keyless
    rw [answer_besides _ _ _ keyless unsent]
    exact ⟨rfl, alike.of_sameOutside (sameOutside_answer unsent unused)⟩
  · obtain ⟨request, rfl⟩ : ∃ request, effect = .send request := by
      simpa [Effect.IsUnsent] using unsent
    exact alike.onSend (.same request)

/-- **A program that does without the keyring** comes to the same in worlds that are alike. -/
theorem Alike.run {α : Type} {program : Program α} (keyless : program.AllAsked Effect.IsKeyless)
    (alike : left.Alike right) :
    (left.run program).1 = (right.run program).1
      ∧ (left.run program).2.Alike (right.run program).2 := by
  induction keyless generalizing left right with
  | done value => exact ⟨rfl, alike⟩
  | ask effect next here _ ih =>
    obtain ⟨same, later⟩ := alike.answer here
    have goesOn := ih (left.answer effect).1 later
    simp only [World.run]
    rw [← same]
    exact goesOn

/-- Worlds with tokens that are alike are alike. -/
theorem alike_withToken (world : World) {first second : Option String}
    (tokens : TokensAlike first second) : (world.withToken first).Alike (world.withToken second) :=
  ⟨rfl, rfl, tokens, List.forall₂_same.mpr fun _ _ => .same _⟩

end Worlds

end World

/-! ### Actions that come to the same -/

/-- Outcomes that are the same failure, or successes in a relation. -/
inductive OutcomesAlike {α β : Type} (same : α → β → Prop) :
    Except Failure α → Except Failure β → Prop where
  | ok {first : α} {second : β} : same first second → OutcomesAlike same (.ok first) (.ok second)
  | error (failure : Failure) : OutcomesAlike same (.error failure) (.error failure)

theorem OutcomesAlike.of_eq {α : Type} {first second : Except Failure α} (same : first = second) :
    OutcomesAlike Eq first second := by
  subst same
  cases first with
  | ok value => exact .ok rfl
  | error failure => exact .error failure

theorem OutcomesAlike.eq {α : Type} {first second : Except Failure α}
    (alike : OutcomesAlike Eq first second) : first = second := by
  cases alike with
  | ok same => rw [same]
  | error failure => rfl

namespace Action

variable {α β γ δ : Type} {same : α → β → Prop} {other : γ → δ → Prop}

/-- In worlds that are alike the actions fail alike, or give things in a relation, and they leave
worlds that are alike. -/
def Alike (same : α → β → Prop) (first : Action α) (second : Action β) : Prop :=
  ∀ ⦃left right : World⦄, left.Alike right →
    OutcomesAlike same (left.attempt first).1 (right.attempt second).1
      ∧ (left.attempt first).2.Alike (right.attempt second).2

namespace Alike

theorem of_keyless {action : Action α} (keyless : action.Only Effect.IsKeyless) :
    Alike Eq action action := by
  intro left right alike
  obtain ⟨outcomes, worlds⟩ := alike.run keyless
  exact ⟨.of_eq outcomes, worlds⟩

theorem pure {first : α} {second : β} (values : same first second) :
    Alike same (Pure.pure first) (Pure.pure second) :=
  fun _ _ alike => ⟨.ok values, alike⟩

/-- **One after the other**, actions come to the same if each does. -/
theorem bind {first : Action α} {second : Action β} {next : α → Action γ} {after : β → Action δ}
    (begun : Alike same first second)
    (rest : ∀ ⦃value⦄ ⦃twin⦄, same value twin → Alike other (next value) (after twin)) :
    Alike other (first >>= next) (second >>= after) := by
  intro left right alike
  obtain ⟨outcomes, worlds⟩ := begun alike
  rw [World.attempt_bind, World.attempt_bind]
  cases one : left.attempt first with
  | mk result later =>
    cases two : right.attempt second with
    | mk twin last =>
      rw [one, two] at outcomes worlds
      cases outcomes with
      | ok values => exact rest values worlds
      | error failure => exact ⟨.error failure, worlds⟩

/-- What goes on with the same in both. -/
theorem bind_eq {first second : Action α} {next after : α → Action γ} {other : γ → γ → Prop}
    (begun : Alike Eq first second) (rest : ∀ value, Alike other (next value) (after value)) :
    Alike other (first >>= next) (second >>= after) :=
  begun.bind fun value _ values => values ▸ rest value

end Alike

end Action

end AssetFetch
