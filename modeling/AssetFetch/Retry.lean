/-
**Trying again.**

An action is attempted until it succeeds or the user gives up. After each failure the user may
store another token first. There is no limit of attempts; what ends the loop is that answers run
out.

* `Dialog`: the answers still to come, prepared ones or lines of a terminal, and the questions
  asked so far;
* `Dialog.askHowToGoOn`, `Dialog.askForToken`: the questions;
* `Host`: who carries out effects and asks questions; `Host.renewToken` asks for a token and stores
  it, `Host.round` is one attempt and what follows it;
* `scripted`: the host made of a dialog and a world;
* `withRetry`: the loop, which ends because every further attempt uses up an answer.
-/

import AssetFetch.Console
import AssetFetch.TokenStore
import AssetFetch.World

namespace AssetFetch

/-! ### Dialogs -/

/-- Answers that are still to come: prepared ones, or the lines of a terminal and the lines of its
hidden input. -/
inductive Answers where
  | prepared (choices : List (Option Choice)) (tokens : List (Option String))
  | terminal (lines secrets : List Line)
  deriving Inhabited

/-- A dialog with a user: what will be answered, and what has been asked. -/
structure Dialog where
  answers : Answers
  messages : List String
  tokenRequests : List (Option String × String)
  deriving Inhabited

namespace Dialog

/-- A dialog in which nothing has been asked. -/
def ofAnswers (answers : Answers) : Dialog := ⟨answers, [], []⟩

/-- The number of answers to the question for a retry that are still to come. -/
def patience (dialog : Dialog) : Nat :=
  match dialog.answers with
  | .prepared choices _ => choices.length
  | .terminal lines _ => lines.length

/-- A reply of a dialog: the answer, the text that the user was shown, and the dialog after it. -/
structure Reply (α : Type) where
  answer : Except Failure α
  text : String
  next : Dialog
  deriving Inhabited

/-- Asks what to do about a failure. -/
def askHowToGoOn (dialog : Dialog) (message : String) : Reply (Option Choice) :=
  let messages := dialog.messages ++ [message]
  match dialog.answers with
  | .prepared [] tokens =>
    ⟨.ok none, "", { dialog with messages, answers := .prepared [] tokens }⟩
  | .prepared (choice :: choices) tokens =>
    ⟨.ok choice, "", { dialog with messages, answers := .prepared choices tokens }⟩
  | .terminal lines secrets =>
    let exchange := Console.askHowToGoOn message lines
    ⟨exchange.answer, exchange.text,
      { dialog with messages, answers := .terminal exchange.rest secrets }⟩

/-- Asks for a token. -/
def askForToken (dialog : Dialog) (current : Option String) (explanation : String) :
    Reply (Option String) :=
  let tokenRequests := dialog.tokenRequests ++ [(current, explanation)]
  match dialog.answers with
  | .prepared choices [] =>
    ⟨.ok none, "", { dialog with tokenRequests, answers := .prepared choices [] }⟩
  | .prepared choices (token :: tokens) =>
    ⟨.ok token, "", { dialog with tokenRequests, answers := .prepared choices tokens }⟩
  | .terminal lines secrets =>
    let exchange := Console.askForToken current explanation secrets
    ⟨exchange.answer, exchange.text ++ String.join exchange.prompts,
      { dialog with tokenRequests, answers := .terminal lines exchange.rest }⟩

/-- Reading a choice leaves no more lines than there were, and fewer if it chooses an option. -/
theorem length_rest_readChoice (lines : List Line) :
    (Console.readChoice lines).rest.length ≤ lines.length ∧
      ∀ choice, (Console.readChoice lines).answer = .ok (some choice) →
        (Console.readChoice lines).rest.length < lines.length := by
  induction lines with
  | nil => simp [Console.readChoice]
  | cons line rest ih =>
    cases line with
    | finish => simp [Console.readChoice]
    | failure failure => simp [Console.readChoice]
    | text characters =>
      cases chosen : Console.choiceOf characters with
      | error failure => simp [Console.readChoice, chosen]
      | ok choice =>
        cases choice with
        | some choice => simp [Console.readChoice, chosen]
        | none =>
          simp only [Console.readChoice, chosen, Console.after, List.length_cons]
          exact ⟨by omega, fun choice equal => by have := ih.2 choice equal; omega⟩

/-- An option chosen uses up an answer. -/
theorem patience_askHowToGoOn {dialog : Dialog} {message : String} {choice : Choice}
    (chosen : (dialog.askHowToGoOn message).answer = .ok (some choice)) :
    (dialog.askHowToGoOn message).next.patience < dialog.patience := by
  obtain ⟨answers, messages, tokenRequests⟩ := dialog
  cases answers with
  | prepared choices tokens =>
    cases choices with
    | nil => simp [askHowToGoOn] at chosen
    | cons first rest => simp [askHowToGoOn, patience]
  | terminal lines secrets =>
    exact (length_rest_readChoice lines).2 choice chosen

/-- Asking for a token uses up no answer to the other question. -/
theorem patience_askForToken (dialog : Dialog) (current : Option String) (explanation : String) :
    (dialog.askForToken current explanation).next.patience = dialog.patience := by
  obtain ⟨answers, messages, tokenRequests⟩ := dialog
  cases answers with
  | prepared choices tokens => cases tokens <;> rfl
  | terminal lines secrets => rfl

end Dialog

/-! ### Tokens -/

namespace Retry

/-- The logger of retries. -/
def logger : String := "move_release_fetcher.retry"

/-- Why a token is asked for. -/
def tokenExplanation : String :=
  "This dialog allows to store a Github authorization token. "
    ++ "The usage of an authorization token will increase the rate "
    ++ "limit on the use of Github APIs and can thereby prevent getting "
    ++ "throttled. "
    ++ "Auth tokens can be created at https://github.com/settings/tokens"

/-- Stores what was answered: nothing if there was no answer, no token if the answer is empty. -/
def storeAnswer (answer : Option String) : Action Unit :=
  match answer with
  | none => return ()
  | some "" => do
    log .info logger "Clearing github token"
    discard (TokenStore.set none)
  | some token => do
    log .info logger "Storing new github token"
    discard (TokenStore.set (some token))

/-- What the user is shown about a failure. -/
def failureMessage (failure : Failure) : String :=
  "Failed to download: " ++ failure.message

/-- Reports a failed attempt in the log. -/
def reportFailure (failure : Failure) : Program Unit :=
  logLine .warning logger ("Download attempt failed: " ++ failure.message)

end Retry

/-! ### Hosts -/

/-- Who carries out what a run asks for: its effects, and its questions to the user. -/
structure Host (m : Type → Type) where
  answer : (effect : Effect) → m effect.Reply
  askHowToGoOn : (message : String) → m (Except Failure (Option Choice))
  askForToken : (current : Option String) → (explanation : String) →
    m (Except Failure (Option String))

namespace Host

variable {m : Type → Type} [Monad m] {α : Type} (host : Host m)

/-- The result of a program. -/
def carryOut (program : Program α) : m α :=
  program.interpret host.answer

/-- The outcome of an action. -/
def attempt (action : Action α) : m (Except Failure α) :=
  host.carryOut action.outcome

/-- Asks for a token and stores it. -/
def renewToken : m (Except Failure Unit) := do
  match ← host.attempt TokenStore.get with
  | .error failure => return .error failure
  | .ok current =>
    match ← host.askForToken current Retry.tokenExplanation with
    | .error failure => return .error failure
    | .ok answer => host.attempt (Retry.storeAnswer answer)

/-- Reports a failure and asks what to do about it. The answer is the failure with which to end, if
there is not to be another attempt. An interruption is not asked about. -/
def afterFailure (failure : Failure) : m (Option Failure) := do
  if failure.isOrdinary then
    host.carryOut (Retry.reportFailure failure)
    match ← host.askHowToGoOn (Retry.failureMessage failure) with
    | .error other => return some other
    | .ok (some .renewToken) =>
      match ← host.renewToken with
      | .error other => return some other
      | .ok () => return none
    | .ok (some .retry) => return none
    | .ok _ => return some failure
  else return some failure

/-- One attempt and what follows it: the outcome in which it ends, if there is not to be another
attempt. -/
def round (action : Action α) : m (Option (Except Failure α)) := do
  match ← host.attempt action with
  | .ok value => return some (.ok value)
  | .error failure => return (← host.afterFailure failure).map .error

end Host

/-! ### Dialogs in a world -/

/-- A dialog answers the questions of a run, and a world its effects. What the user is shown is told
in the world. -/
def scripted : Host (StateM (Dialog × World)) where
  answer effect state :=
    let answered := state.2.answer effect
    (answered.1, state.1, answered.2)
  askHowToGoOn message state :=
    let reply := state.1.askHowToGoOn message
    (reply.answer, reply.next, state.2.tell reply.text)
  askForToken current explanation state :=
    let reply := state.1.askForToken current explanation
    (reply.answer, reply.next, state.2.tell reply.text)

/-- What goes on with a result goes on in the state that came with it. -/
theorem bind_apply {σ α β : Type} (first : StateM σ α) (next : α → StateM σ β) (state : σ) :
    (first >>= next) state = next (first state).1 (first state).2 := rfl

/-- A program runs in the world, and the dialog is not asked. -/
theorem carryOut_scripted {α : Type} (program : Program α) (dialog : Dialog) (world : World) :
    scripted.carryOut program (dialog, world)
      = ((world.run program).1, dialog, (world.run program).2) := by
  induction program generalizing world with
  | done value => rfl
  | ask effect next ih => exact ih (world.answer effect).1 (world.answer effect).2

theorem attempt_scripted {α : Type} (action : Action α) (dialog : Dialog) (world : World) :
    scripted.attempt action (dialog, world)
      = ((world.attempt action).1, dialog, (world.attempt action).2) :=
  carryOut_scripted action.outcome dialog world

/-- Asks for a token and stores it. -/
def renewToken (dialog : Dialog) (world : World) : Except Failure Unit × Dialog × World :=
  scripted.renewToken (dialog, world)

/-- The token that is stored is read first, and the answer is stored in the end. -/
theorem renewToken_eq (dialog : Dialog) (world : World) :
    renewToken dialog world
      = match world.attempt TokenStore.get with
        | (.error failure, world) => (.error failure, dialog, world)
        | (.ok current, world) =>
          let reply := dialog.askForToken current Retry.tokenExplanation
          let told := world.tell reply.text
          match reply.answer with
          | .error failure => (.error failure, reply.next, told)
          | .ok answer =>
            let stored := told.attempt (Retry.storeAnswer answer)
            (stored.1, reply.next, stored.2) := by
  rw [renewToken, Host.renewToken, bind_apply, attempt_scripted]
  cases world.attempt TokenStore.get with
  | mk current later =>
    cases current with
    | error failure => rfl
    | ok current =>
      have asked : scripted.askForToken current Retry.tokenExplanation (dialog, later)
          = ((dialog.askForToken current Retry.tokenExplanation).answer,
            (dialog.askForToken current Retry.tokenExplanation).next,
            later.tell (dialog.askForToken current Retry.tokenExplanation).text) := rfl
      simp only [bind_apply, asked]
      cases (dialog.askForToken current Retry.tokenExplanation).answer with
      | error failure => rfl
      | ok answer => exact attempt_scripted ..

/-- Updating the token uses up no answer to the question for a retry. -/
theorem patience_renewToken (dialog : Dialog) (world : World) :
    (renewToken dialog world).2.1.patience = dialog.patience := by
  rw [renewToken_eq]
  split
  · rfl
  · simp only
    split <;> exact Dialog.patience_askForToken ..

/-! ### The loop -/

/-- What follows a failed attempt: the end with a failure, or another attempt. -/
inductive AfterFailure where
  | stop (failure : Failure) (dialog : Dialog) (world : World)
  | again (dialog : Dialog) (world : World)

/-- Reports a failure and asks what to do about it. -/
def afterFailure (failure : Failure) (dialog : Dialog) (world : World) : AfterFailure :=
  match scripted.afterFailure failure (dialog, world) with
  | (some other, dialog, world) => .stop other dialog world
  | (none, dialog, world) => .again dialog world

/-- The user is asked about what is no interruption. -/
theorem afterFailure_eq (failure : Failure) (dialog : Dialog) (world : World) :
    afterFailure failure dialog world
      = if failure.isOrdinary then
          let reported := (world.run (Retry.reportFailure failure)).2
          let reply := dialog.askHowToGoOn (Retry.failureMessage failure)
          let told := reported.tell reply.text
          match reply.answer with
          | .error other => .stop other reply.next told
          | .ok (some .renewToken) =>
            let updated := renewToken reply.next told
            match updated.1 with
            | .error other => .stop other updated.2.1 updated.2.2
            | .ok () => .again updated.2.1 updated.2.2
          | .ok (some .retry) => .again reply.next told
          | .ok _ => .stop failure reply.next told
        else .stop failure dialog world := by
  rw [afterFailure, Host.afterFailure]
  by_cases ordinary : failure.isOrdinary = true
  · have asked : ∀ world, scripted.askHowToGoOn (Retry.failureMessage failure) (dialog, world)
        = ((dialog.askHowToGoOn (Retry.failureMessage failure)).answer,
          (dialog.askHowToGoOn (Retry.failureMessage failure)).next,
          world.tell (dialog.askHowToGoOn (Retry.failureMessage failure)).text) := fun _ => rfl
    simp only [if_pos ordinary, bind_apply, carryOut_scripted, asked]
    cases (dialog.askHowToGoOn (Retry.failureMessage failure)).answer with
    | error other => rfl
    | ok chosen =>
      rcases chosen with _ | choice
      · rfl
      · cases choice with
        | renewToken =>
          simp only [bind_apply, renewToken]
          generalize scripted.renewToken _ = updated
          obtain ⟨outcome, next, after⟩ := updated
          cases outcome <;> rfl
        | retry => rfl
        | dismiss => rfl
  · rw [if_neg ordinary, if_neg ordinary]
    rfl

/-- Another attempt uses up an answer. -/
theorem patience_afterFailure {failure : Failure} {dialog next : Dialog} {world after : World}
    (again : afterFailure failure dialog world = .again next after) :
    next.patience < dialog.patience := by
  rw [afterFailure_eq] at again
  split at again
  · simp only at again
    split at again
    · simp at again
    · rename_i chosen
      split at again
      · simp at again
      · simp only [AfterFailure.again.injEq] at again
        rw [← again.1, patience_renewToken]
        exact Dialog.patience_askHowToGoOn chosen
    · rename_i chosen
      simp only [AfterFailure.again.injEq] at again
      rw [← again.1]
      exact Dialog.patience_askHowToGoOn chosen
    · simp at again
  · simp at again

/-- A round ends with a success, or as what follows a failure says. -/
theorem round_scripted {α : Type} (action : Action α) (dialog : Dialog) (world : World) :
    scripted.round action (dialog, world)
      = match world.attempt action with
        | (.ok value, after) => (some (.ok value), dialog, after)
        | (.error failure, after) =>
          match afterFailure failure dialog after with
          | .stop other dialog world => (some (.error other), dialog, world)
          | .again dialog world => (none, dialog, world) := by
  rw [Host.round, bind_apply, attempt_scripted]
  cases world.attempt action with
  | mk result after =>
    cases result with
    | ok value => rfl
    | error failure =>
      simp only [bind_apply, afterFailure]
      generalize scripted.afterFailure failure (dialog, after) = followed
      obtain ⟨other, next, later⟩ := followed
      cases other <;> rfl

/-- A round after which there is another uses up an answer. -/
theorem patience_round {α : Type} {action : Action α} {dialog next : Dialog} {world after : World}
    (again : scripted.round action (dialog, world) = (none, next, after)) :
    next.patience < dialog.patience := by
  rw [round_scripted] at again
  split at again
  · cases again
  · split at again
    · cases again
    · rename_i goesOn
      cases again
      exact patience_afterFailure goesOn

/-- Attempts an action until it succeeds or the user gives up, and answers with the success or the
last failure. An interruption ends it at once. -/
def withRetry {α : Type} (action : Action α) (dialog : Dialog) (world : World) :
    Except Failure α × Dialog × World :=
  match _again : scripted.round action (dialog, world) with
  | (some outcome, last) => (outcome, last)
  | (none, next, after) => withRetry action next after
termination_by dialog.patience
decreasing_by exact patience_round _again

end AssetFetch
