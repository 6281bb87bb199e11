/-
**The token stays secret.**

Two runs whose tokens an onlooker cannot tell apart, the stored ones and those that are typed:

* `Line.Alike`, `Dialog.Alike`: lines of hidden input that are both blank or both not, and dialogs
  with the same lines and alike hidden ones;
* `TokenStore.alike_get`, `Retry.alike_storeAnswer`, `alike_lookupWith`: what uses the token, in the
  token store and in a lookup, comes to the same;
* `alike_afterFailure`, `alike_withRetry`: so does **every run of attempts**, whatever the user
  wishes in between;
* `App.token_stays_secret`: **whole runs** end alike, show and write the same, and send the same but
  for the token of lookups.
-/

import AssetFetch.Proofs.Alike

namespace AssetFetch

open World

/-! ### The token store -/

namespace World.Alike

variable {left right : World} (alike : left.Alike right)

include alike

theorem noteCall (first second : KeyringAction) :
    (left.noteCall first).Alike (right.noteCall second) := by
  obtain ⟨keyring, requests, rfl, faults, token, sent⟩ := alike.exists_besides
  exact ⟨rfl, faults, token, sent⟩

theorem withToken {first second : Option String} (tokens : TokensAlike first second) :
    (left.withToken first).Alike (right.withToken second) := by
  obtain ⟨keyring, requests, rfl, faults, _, sent⟩ := alike.exists_besides
  exact ⟨rfl, faults, tokens, sent⟩

end World.Alike

namespace TokenStore

variable {α β : Type} {same : α → β → Prop}

/-- **Calls of the keyring that are answered alike** come to the same. -/
theorem alike_asking {first second : KeyringAction} {onReply : first.Result → α}
    {onTwin : second.Result → β} {onFault : KeyringFault → Action α}
    {onTwinFault : KeyringFault → Action β}
    (calls : ∀ ⦃left right : World⦄, left.Alike right →
      OutcomesAlike (fun reply twin => same (onReply reply) (onTwin twin))
          (left.onKeyring first).1 (right.onKeyring second).1
        ∧ (left.onKeyring first).2.Alike (right.onKeyring second).2)
    (faults : ∀ fault, Action.Alike same (onFault fault) (onTwinFault fault)) :
    Action.Alike same (asking first onReply onFault) (asking second onTwin onTwinFault) := by
  intro left right alike
  obtain ⟨outcomes, worlds⟩ := calls alike
  rw [attempt_asking, attempt_asking]
  cases one : left.onKeyring first with
  | mk result later =>
    cases two : right.onKeyring second with
    | mk twin last =>
      rw [one, two] at outcomes worlds
      cases outcomes with
      | ok replies => exact ⟨.ok replies, worlds⟩
      | error failure =>
        cases failure with
        | keyring fault => exact faults fault worlds
        | _ => exact ⟨.error _, worlds⟩

/-- **The tokens that are read are alike.** -/
theorem alike_get : Action.Alike TokensAlike get get := by
  refine alike_asking (fun left right alike => ?_) fun fault => ?_
  · simp only [World.onKeyring, ← alike.faults]
    cases left.keyring.faults.get with
    | some failure => exact ⟨.error failure, alike.noteCall _ _⟩
    | none => exact ⟨.ok alike.token, alike.noteCall _ _⟩
  · exact (Action.Alike.of_keyless (local_log ..).keyless).bind_eq fun _ => .pure .absent

theorem alike_delete : Action.Alike Eq delete delete := by
  refine alike_asking (fun left right alike => ?_) fun fault => ?_
  · simp only [World.onKeyring, ← alike.faults]
    cases left.keyring.faults.delete with
    | some failure => exact ⟨.error failure, alike.noteCall _ _⟩
    | none =>
      have tokens := alike.token
      cases one : left.keyring.token <;> cases two : right.keyring.token <;> rw [one, two] at tokens
      · exact ⟨.error _, alike.noteCall _ _⟩
      · cases tokens
      · cases tokens
      · exact ⟨.ok trivial, (alike.noteCall _ _).withToken .absent⟩
  · exact .of_keyless (.ite (.pure _) (.bind (local_log ..).keyless fun _ => .pure _))

/-- **Tokens that are not empty** are stored alike. -/
theorem alike_set {first second : String} (given : first ≠ "") (other : second ≠ "") :
    Action.Alike Eq (set (some first)) (set (some second)) := by
  refine alike_asking (fun left right alike => ?_) fun fault => ?_
  · simp only [World.onKeyring, ← alike.faults]
    cases left.keyring.faults.set with
    | some failure => exact ⟨.error failure, alike.noteCall _ _⟩
    | none => exact ⟨.ok trivial, (alike.noteCall _ _).withToken (.present given other)⟩
  · exact .of_keyless (.bind (local_log ..).keyless fun _ => .pure _)

end TokenStore

/-- Answers that are alike are stored alike. -/
theorem Retry.alike_storeAnswer {first second : Option String}
    (answers : TokensAlike first second) :
    Action.Alike Eq (storeAnswer first) (storeAnswer second) := by
  have noted : ∀ message, Action.Alike Eq (log .info logger message) (log .info logger message) :=
    fun message => .of_keyless (local_log ..).keyless
  cases answers with
  | absent => exact .pure rfl
  | empty => exact (noted _).bind_eq fun _ => TokenStore.alike_delete.bind_eq fun _ => .pure rfl
  | @present first second given other =>
    have stores : ∀ token, token ≠ "" → storeAnswer (some token) = (do
        log .info logger "Storing new github token"
        discard (TokenStore.set (some token))) := by
      intro token nonempty
      unfold storeAnswer
      split
      · rename_i absent
        cases absent
      · rename_i empty
        exact absurd (Option.some.inj empty) nonempty
      · rename_i some_token
        rw [Option.some.inj some_token]
    rw [stores first given, stores second other]
    exact (noted _).bind_eq fun _ => (TokenStore.alike_set given other).bind_eq fun _ => .pure rfl

/-! ### The lookup -/

theorem alike_send {first second : Request} (asks : first.Alike second) :
    Action.Alike Eq (Action.ofProgram (send first).outcome)
      (Action.ofProgram (send second).outcome) := by
  intro left right alike
  obtain ⟨outcomes, worlds⟩ := alike.onSend asks
  rw [attempt_ofProgram, attempt_ofProgram]
  exact ⟨.ok outcomes, worlds⟩

/-- **Lookups with tokens that are alike** come to the same. -/
theorem Client.alike_lookup (client : Client) (tag : Value) {first second : Option String}
    (tokens : TokensAlike first second) :
    Action.Alike Eq (Client.lookup { client with token := first } tag)
      (Client.lookup { client with token := second } tag) := by
  rw [lookup_eq, lookup_eq]
  refine (Action.Alike.of_keyless (.ofExcept _)).bind_eq fun url => ?_
  refine (Action.Alike.of_keyless (local_log ..).keyless).bind_eq fun _ => ?_
  refine (alike_send (client.alike_request url tokens)).bind_eq fun result => ?_
  exact .of_keyless (Lookup.mute_receive tag url result).plain.keyless_of_plain

theorem alike_lookupWith (settings : Settings) (tag : Value) :
    Action.Alike Eq (lookupWith settings tag) (lookupWith settings tag) :=
  TokenStore.alike_get.bind fun _ _ tokens =>
    Client.alike_lookup ⟨none, settings.value .apiBase, settings.value .repository,
      settings.value .requestTimeout⟩ tag tokens

/-- **An attempt to fetch an asset** comes to the same. -/
theorem Order.alike_attempt (order : Order) : Action.Alike Eq order.attempt order.attempt := by
  refine (alike_lookupWith order.settings order.tag).bind_eq fun release => ?_
  refine .of_keyless (.bind (.ofExcept _) fun asset => ?_)
  exact (plain_downloadReporting _ _).keyless_of_plain

/-! ### Dialogs -/

/-- Lines of hidden input of which an onlooker can tell no more than whether there is one, and
whether it is blank. -/
inductive Line.Alike : Line → Line → Prop where
  | finish : Alike .finish .finish
  | failure (failure : Failure) : Alike (.failure failure) (.failure failure)
  | blank {first second : String} (empty : Text.trim first = "") (other : Text.trim second = "") :
      Alike (.text first) (.text second)
  | typed {first second : String} (given : Text.trim first ≠ "") (other : Text.trim second ≠ "") :
      Alike (.text first) (.text second)

/-- Dialogs at a terminal with the same lines and hidden lines that are alike. -/
inductive Dialog.Alike : Dialog → Dialog → Prop where
  | terminal (lines : List Line) {first second : List Line}
      (secrets : List.Forall₂ Line.Alike first second)
      (messages others : List String) (asked questions : List (Option String × String)) :
      Alike ⟨.terminal lines first, messages, asked⟩ ⟨.terminal lines second, others, questions⟩

/-- Replies that show the same, of dialogs that are alike. -/
structure Dialog.Reply.Alike {α : Type} (same : α → α → Prop) (left right : Dialog.Reply α) :
    Prop where
  answer : OutcomesAlike same left.answer right.answer
  text : left.text = right.text
  next : left.next.Alike right.next

theorem Dialog.Alike.askHowToGoOn {left right : Dialog} (alike : left.Alike right)
    (message : String) :
    (left.askHowToGoOn message).Alike Eq (right.askHowToGoOn message) := by
  cases alike with
  | terminal lines secrets => exact ⟨.of_eq rfl, rfl, .terminal _ secrets _ _ _ _⟩

/-- **The question for a token** shows the same, and the answers are alike. -/
theorem Dialog.Alike.askForToken {left right : Dialog} (alike : left.Alike right)
    {first second : Option String} (tokens : TokensAlike first second) (explanation : String) :
    (left.askForToken first explanation).Alike TokensAlike
      (right.askForToken second explanation) := by
  cases alike with
  | terminal lines secrets =>
    have hints := tokens.isEmpty_eq
    cases secrets with
    | nil =>
      refine ⟨.ok .absent, ?_, .terminal _ .nil _ _ _ _⟩
      simp only [Dialog.askForToken, Console.askForToken, hints]
    | cons line rest =>
      cases line with
      | finish =>
        refine ⟨.ok .absent, ?_, .terminal _ rest _ _ _ _⟩
        simp only [Dialog.askForToken, Console.askForToken, hints]
      | failure failure =>
        refine ⟨?_, ?_, .terminal _ rest _ _ _ _⟩
        · simp only [Dialog.askForToken, Console.askForToken]
          split
          · exact .ok .absent
          · exact .error failure
        · simp only [Dialog.askForToken, Console.askForToken, hints]
      | blank empty other =>
        refine ⟨?_, ?_, .terminal _ rest _ _ _ _⟩
        · simp only [Dialog.askForToken, Console.askForToken, empty, other]
          exact .ok .empty
        · simp only [Dialog.askForToken, Console.askForToken, hints]
      | typed given other =>
        refine ⟨.ok (.present given other), ?_, .terminal _ rest _ _ _ _⟩
        simp only [Dialog.askForToken, Console.askForToken, hints]

/-! ### The loop -/

/-- Runs with a user that come to the same: outcomes, dialogs and worlds are alike. -/
structure RunsAlike {α β : Type} (same : α → β → Prop) (left : Except Failure α × Dialog × World)
    (right : Except Failure β × Dialog × World) : Prop where
  outcome : OutcomesAlike same left.1 right.1
  dialog : left.2.1.Alike right.2.1
  world : left.2.2.Alike right.2.2

section Loop

variable {dialog twin : Dialog} {left right : World}

/-- **Asking for a token and storing it** comes to the same. -/
theorem alike_renewToken (dialogs : dialog.Alike twin) (alike : left.Alike right) :
    RunsAlike Eq (renewToken dialog left) (renewToken twin right) := by
  rw [renewToken_eq, renewToken_eq]
  obtain ⟨outcomes, worlds⟩ := TokenStore.alike_get alike
  cases one : left.attempt TokenStore.get with
  | mk result later =>
    cases two : right.attempt TokenStore.get with
    | mk other last =>
      rw [one, two] at outcomes worlds
      cases outcomes with
      | error failure => exact ⟨.error failure, dialogs, worlds⟩
      | @ok current known tokens =>
        have asked := dialogs.askForToken tokens Retry.tokenExplanation
        simp only
        generalize dialog.askForToken current Retry.tokenExplanation = reply at asked ⊢
        generalize twin.askForToken known Retry.tokenExplanation = other at asked ⊢
        obtain ⟨answers, text, next⟩ := asked
        have told := worlds.tell reply.text
        rw [← text]
        cases first : reply.answer <;> cases second : other.answer <;> rw [first, second] at answers
        · cases answers
          exact ⟨.error _, next, told⟩
        · cases answers
        · cases answers
        · cases answers with
          | ok answers =>
            obtain ⟨outcomes, worlds⟩ := Retry.alike_storeAnswer answers told
            exact ⟨outcomes, next, worlds⟩

/-- What follows failed attempts that came to the same. -/
inductive AfterFailure.Alike : AfterFailure → AfterFailure → Prop where
  | stop (failure : Failure) {dialog twin : Dialog} {left right : World}
      (dialogs : dialog.Alike twin) (worlds : left.Alike right) :
      Alike (.stop failure dialog left) (.stop failure twin right)
  | again {dialog twin : Dialog} {left right : World} (dialogs : dialog.Alike twin)
      (worlds : left.Alike right) : Alike (.again dialog left) (.again twin right)

/-- **The same follows the same failure.** -/
theorem alike_afterFailure (failure : Failure) (dialogs : dialog.Alike twin)
    (alike : left.Alike right) :
    (afterFailure failure dialog left).Alike (afterFailure failure twin right) := by
  rw [afterFailure_eq, afterFailure_eq]
  split
  · have reported :=
      (alike.run (show (Retry.reportFailure failure).AllAsked _ from .perform trivial)).2
    obtain ⟨answers, text, next⟩ := dialogs.askHowToGoOn (Retry.failureMessage failure)
    have told := reported.tell (dialog.askHowToGoOn (Retry.failureMessage failure)).text
    simp only [← text, ← answers.eq]
    split
    · exact .stop _ next told
    · obtain ⟨outcomes, renewed, worlds⟩ := alike_renewToken next told
      rw [← outcomes.eq]
      split
      · exact .stop _ renewed worlds
      · exact .again renewed worlds
    · exact .again next told
    · exact .stop _ next told
  · exact .stop _ dialogs alike

/-- **Runs of attempts that come to the same** come to the same. By induction on the answers that
are still to come. -/
theorem alike_withRetry {α : Type} {first second : Action α}
    (attempts : Action.Alike Eq first second) (dialogs : dialog.Alike twin)
    (alike : left.Alike right) :
    RunsAlike Eq (withRetry first dialog left) (withRetry second twin right) := by
  induction patience : dialog.patience using Nat.strong_induction_on
    generalizing dialog twin left right with
  | h count ih =>
    obtain ⟨outcomes, worlds⟩ := attempts alike
    cases one : left.attempt first with
    | mk result later =>
      cases two : right.attempt second with
      | mk other last =>
        rw [one, two] at outcomes worlds
        cases outcomes with
        | ok values =>
          rw [withRetry_of_ok one, withRetry_of_ok two]
          exact ⟨.ok values, dialogs, worlds⟩
        | error failure =>
          have follows := alike_afterFailure failure dialogs worlds
          cases goesOn : afterFailure failure dialog later <;>
            cases twinGoesOn : afterFailure failure twin last <;> rw [goesOn, twinGoesOn] at follows
          · rw [withRetry_of_stop one goesOn, withRetry_of_stop two twinGoesOn]
            cases follows with
            | stop failure dialogs worlds => exact ⟨.error _, dialogs, worlds⟩
          · cases follows
          · cases follows
          · rw [withRetry_of_again one goesOn, withRetry_of_again two twinGoesOn]
            cases follows with
            | again dialogs worlds =>
              exact ih _ (patience ▸ patience_afterFailure goesOn) dialogs worlds rfl

end Loop

/-! ### Whole runs -/

namespace App

theorem keyless_conclude (failure : Failure) : (conclude failure).Only Effect.IsKeyless := by
  unfold conclude
  split
  · exact .bind (local_log ..).keyless fun _ => .pure _
  · exact .bind (local_log ..).keyless fun _ => .bind (local_tellLine _).keyless fun _ => .pure _
  · exact .throw _

section Run

variable {dialog twin : Dialog} {left right : World}

theorem alike_print (text : Text.LooseText) (alike : left.Alike right) :
    (left.print text).2.Alike (right.print text).2 := by
  have keyless : (AssetFetch.perform (.print text)).AllAsked Effect.IsKeyless := .perform trivial
  exact (alike.run keyless).2

theorem keyless_printLine (text : Text.LooseText) : (printLine text).Only Effect.IsKeyless :=
  .attempt (.perform trivial)

theorem keyless_printAssets (assets : List Asset) : (printAssets assets).Only Effect.IsKeyless := by
  unfold printAssets
  induction assets with
  | nil => exact .pure _
  | cons asset assets ih =>
    exact .bind (keyless_printLine (assetLine asset)) fun _ => ih

/-- **What is printed in the end** comes to the same. -/
theorem alike_printed {action : Action Unit} (keyless : action.Only Effect.IsKeyless)
    (dialogs : dialog.Alike twin) (alike : left.Alike right) :
    RunsAlike Eq ((left.attempt action).1.map fun _ => 0, dialog, (left.attempt action).2)
      ((right.attempt action).1.map fun _ => 0, twin, (right.attempt action).2) := by
  obtain ⟨outcomes, worlds⟩ := Action.Alike.of_keyless keyless alike
  refine ⟨.of_eq ?_, dialogs, worlds⟩
  rw [outcomes.eq]

/-- **What is left to do** comes to the same. -/
theorem alike_perform (task : Task) (dialogs : dialog.Alike twin) (alike : left.Alike right) :
    RunsAlike Eq (perform task dialog left) (perform task twin right) := by
  cases task with
  | finished code => exact ⟨.ok rfl, dialogs, alike⟩
  | renewToken =>
    obtain ⟨outcomes, renewed, worlds⟩ := alike_renewToken dialogs alike
    refine ⟨.of_eq ?_, renewed, worlds⟩
    simp only [perform_eq, outcomes.eq]
  | list settings tag =>
    obtain ⟨outcomes, asked, worlds⟩ :=
      alike_withRetry (alike_lookupWith settings tag) dialogs alike
    simp only [perform_eq]
    generalize withRetry (lookupWith settings tag) dialog left = one at outcomes asked worlds ⊢
    generalize withRetry (lookupWith settings tag) twin right = two at outcomes asked worlds ⊢
    obtain ⟨result, next, later⟩ := one
    obtain ⟨other, following, last⟩ := two
    cases outcomes with
    | ok same =>
      subst same
      exact alike_printed (keyless_printAssets _) asked worlds
    | error failure => exact ⟨.error failure, asked, worlds⟩
  | fetch order =>
    have announced := (alike.run (show order.announce.AllAsked _ from .perform trivial)).2
    obtain ⟨outcomes, asked, worlds⟩ := alike_withRetry order.alike_attempt dialogs announced
    simp only [perform_eq, Order.fetch_eq]
    generalize withRetry order.attempt dialog _ = one at outcomes asked worlds ⊢
    generalize withRetry order.attempt twin _ = two at outcomes asked worlds ⊢
    obtain ⟨result, next, later⟩ := one
    obtain ⟨other, following, last⟩ := two
    cases outcomes with
    | ok same =>
      subst same
      exact alike_printed (keyless_printLine _) asked worlds
    | error failure => exact ⟨.error failure, asked, worlds⟩

/-- **A run with arguments that have been read** ends alike. -/
theorem alike_runWith (arguments : Arguments) (environment : Environment)
    (dialogs : dialog.Alike twin) (alike : left.Alike right) :
    (runWith arguments environment dialog left).1 = (runWith arguments environment twin right).1
      ∧ (runWith arguments environment dialog left).2.2.Alike
        (runWith arguments environment twin right).2.2 := by
  obtain ⟨outcomes, worlds⟩ := Action.Alike.of_keyless (keyless_prepare arguments environment) alike
  rw [runWith_eq, runWith_eq]
  cases one : left.attempt (prepare arguments environment) with
  | mk result later =>
    cases two : right.attempt (prepare arguments environment) with
    | mk other last =>
      rw [one, two] at outcomes worlds
      cases outcomes with
      | error failure => exact ⟨rfl, worlds⟩
      | @ok task _ same =>
        subst same
        obtain ⟨outcomes, asked, worlds⟩ := alike_perform task dialogs worlds
        simp only
        generalize perform task dialog later = one at outcomes asked worlds ⊢
        generalize perform task twin last = two at outcomes asked worlds ⊢
        obtain ⟨result, next, later⟩ := one
        obtain ⟨other, following, last⟩ := two
        cases outcomes with
        | ok same => exact ⟨congrArg Ending.exit same, worlds⟩
        | error failure =>
          obtain ⟨concluded, worlds⟩ := Action.Alike.of_keyless (keyless_conclude failure) worlds
          exact ⟨congrArg Ending.ofOutcome concluded.eq, worlds⟩

/-- **A whole run** ends alike. -/
theorem alike_run (words : List String) (environment : Environment) (dialogs : dialog.Alike twin)
    (alike : left.Alike right) :
    (App.run words environment dialog left).1 = (App.run words environment twin right).1
      ∧ (App.run words environment dialog left).2.2.Alike
        (App.run words environment twin right).2.2 := by
  have ends : ∀ (ending : Ending) {one two : Ending × Dialog × World} {first second : World},
      first.Alike second → one = (ending, dialog, first) → two = (ending, twin, second) →
      one.1 = two.1 ∧ one.2.2.Alike two.2.2 := by
    rintro ending _ _ first second same rfl rfl
    exact ⟨rfl, same⟩
  cases parsed : CommandLine.parseArguments words with
  | error ended =>
    cases ended with
    | help => exact ends _ (alike_print _ alike) (run_of_help parsed ..) (run_of_help parsed ..)
    | mistake mistake =>
      exact ends _ (alike.tell _) (run_of_mistake parsed ..) (run_of_mistake parsed ..)
  | ok arguments =>
    rw [run_of_ok parsed, run_of_ok parsed]
    exact alike_runWith arguments environment dialogs alike

end Run

/-- **The token stays secret.** Let two runs differ in the token that is stored and in the lines
that are typed where one is asked for, the tokens both missing, both empty or both neither, and the
lines both at the end of input, both blank or both neither. They end the same way, they write the
same to the output, to the user, to the log and into files, and they send the same requests up to
the token of lookups. -/
theorem token_stays_secret (words : List String) (environment : Environment) (world : World)
    (lines : List Line) {stored other : Option String} {typed secrets : List Line}
    (tokens : TokensAlike stored other) (hidden : List.Forall₂ Line.Alike typed secrets) :
    let first := App.run words environment (.ofAnswers (.terminal lines typed))
      (world.withToken stored)
    let second := App.run words environment (.ofAnswers (.terminal lines secrets))
      (world.withToken other)
    first.1 = second.1
      ∧ first.2.2.output = second.2.2.output
      ∧ first.2.2.told = second.2.2.told
      ∧ first.2.2.records = second.2.2.records
      ∧ first.2.2.tree = second.2.2.tree
      ∧ List.Forall₂ Request.Alike first.2.2.requests second.2.2.requests := by
  intro first second
  obtain ⟨ending, alike⟩ := alike_run words environment
    (Dialog.Alike.terminal lines hidden [] [] [] []) (alike_withToken world tokens)
  exact ⟨ending, alike.output_eq, alike.told_eq, alike.records_eq, alike.tree_eq, alike.requests⟩

/-- Two runs whose first lookup fails, after which another token is typed. -/
theorem token_stays_secret_after_failure :
    TokensAlike (some "alpha") (some "beta")
      ∧ List.Forall₂ Line.Alike [.text "gamma"] [.text " delta "]
      ∧ (let first := App.run ["v1", "tool"] exampleEnvironment
          (.ofAnswers (.terminal [.text "1"] [.text "gamma"]))
          (World.empty.withToken (some "alpha"))
        let second := App.run ["v1", "tool"] exampleEnvironment
          (.ofAnswers (.terminal [.text "1"] [.text " delta "]))
          (World.empty.withToken (some "beta"))
        first.1 = second.1
          ∧ first.2.2.output = second.2.2.output
          ∧ first.2.2.told = second.2.2.told
          ∧ first.2.2.records = second.2.2.records
          ∧ first.2.2.tree = second.2.2.tree
          ∧ List.Forall₂ Request.Alike first.2.2.requests second.2.2.requests) := by
  have tokens : TokensAlike (some "alpha") (some "beta") := .present (by decide) (by decide)
  have hidden : List.Forall₂ Line.Alike [.text "gamma"] [.text " delta "] :=
    .cons (.typed (by decide) (by decide)) .nil
  exact ⟨tokens, hidden,
    token_stays_secret ["v1", "tool"] exampleEnvironment .empty [.text "1"] tokens hidden⟩

end App

end AssetFetch
