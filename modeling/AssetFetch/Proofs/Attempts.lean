/-
**What a run of attempts comes to.**

* `Effect.Passes`, `World.Passes`: effects that print nothing, open no log and work on some files
  only, and what a world has in common with one after such effects (`passes_run`);
* `passes_renewToken`, `passes_afterFailure`: what is done between attempts;
* `Retry.Ended`, `ended_withRetry`: **a run of attempts ends with an attempt that succeeds, or after
  one that failed**, however many there were before. If those that fail print nothing and keep what
  is elsewhere, that is so until then.
-/

import AssetFetch.Proofs.Confined
import AssetFetch.Proofs.Replies

namespace AssetFetch

/-! ### What prints nothing and works on some files -/

/-- Effects that print nothing, open no log, and do nothing to other files than those of some
paths. -/
structure Effect.Passes (paths : Path → Prop) (effect : Effect) : Prop where
  unprinted : effect.IsUnprinted
  opens : effect.OpensNoLog
  works : effect.WorksOn paths

theorem Effect.IsQuiet.passes {effect : Effect} (quiet : effect.IsQuiet) (paths : Path → Prop) :
    effect.Passes paths :=
  ⟨quiet.plain.unprinted, quiet.plain.opensNoLog, quiet.worksOn paths⟩

namespace World

variable {world later : World} {paths : Path → Prop} {changed : Location → Prop}

/-- What a world has in common with one after such effects: no reply has been skipped, nothing has
been printed, the log file is the same or closed, and only some places differ. -/
structure Passes (paths : Path → Prop) (changed : Location → Prop) (before after : World) :
    Prop where
  onward : before.Onward after
  output : after.output = before.output
  logFile : ∀ place ∈ after.logFile, place ∈ before.logFile
  confines : Confined paths changed before → Confines paths changed before after

theorem Passes.refl (world : World) : Passes paths changed world world :=
  ⟨.refl world, rfl, fun _ inside => inside, fun confined => confined.confines_refl⟩

theorem Passes.trans {first second third : World} (left : Passes paths changed first second)
    (right : Passes paths changed second third) : Passes paths changed first third where
  onward := left.onward.trans right.onward
  output := right.output.trans left.output
  logFile place inside := left.logFile place (right.logFile place inside)
  confines confined :=
    (left.confines confined).trans (right.confines (left.confines confined).confined)

/-- **What such a program leaves.** -/
theorem passes_run {α : Type} {program : Program α}
    (asked : program.AllAsked (Effect.Passes paths)) (world : World) :
    Passes paths changed world (world.run program).2 where
  onward := onward_run program world
  output := output_run (asked.mono fun _ passes => passes.unprinted) world
  logFile := mem_logFile_run (asked.mono fun _ passes => passes.opens) world
  confines confined := confined.confines_run (asked.mono fun _ passes => passes.works)

end World

open World

/-! ### The token store -/

section Tokens

variable {kind : Effect → Prop} (called : ∀ action, kind (.keyring action))
  (logged : ∀ record, kind (.log record))

include called logged

namespace TokenStore

omit logged in
/-- A call of the keyring and the line about its failure are all that is asked for. -/
theorem only_asking {α : Type} {action : KeyringAction} {onReply : action.Result → α}
    {onFault : KeyringFault → Action α} (faults : ∀ fault, (onFault fault).Only kind) :
    (asking action onReply onFault).Only kind := by
  refine .orElse (.bind (.attempt (.perform (called action))) fun _ => .pure _) fun failure => ?_
  cases failure with
  | keyring fault => exact faults fault
  | _ => exact .throw _

theorem only_get : get.Only kind :=
  only_asking called fun _ => .bind (.ofProgram (.perform (logged _))) fun _ => .pure _

theorem only_set (token : Option String) : (set token).Only kind := by
  cases token with
  | none =>
    exact only_asking called fun _ =>
      .ite (.pure _) (.bind (.ofProgram (.perform (logged _))) fun _ => .pure _)
  | some token =>
    exact only_asking called fun _ =>
      .bind (.ofProgram (.perform (logged _))) fun _ => .pure _

end TokenStore

/-- **Storing an answer asks for the keyring and the log only.** -/
theorem Retry.only_storeAnswer (answer : Option String) : (storeAnswer answer).Only kind := by
  unfold storeAnswer
  split
  · exact .pure _
  · exact .bind (.ofProgram (.perform (logged _))) fun _ =>
      .discard (TokenStore.only_set called logged _)
  · exact .bind (.ofProgram (.perform (logged _))) fun _ =>
      .discard (TokenStore.only_set called logged _)

end Tokens

/-! ### Between attempts -/

section Between

variable {paths : Path → Prop} {changed : Location → Prop}

theorem Effect.passes_keyring (action : KeyringAction) : (Effect.keyring action).Passes paths :=
  ⟨nofun, nofun, trivial⟩

theorem Effect.passes_log (record : LogLine) : (Effect.log record).Passes paths :=
  ⟨nofun, nofun, trivial⟩

theorem Effect.passes_tell (text : String) : (Effect.tell text).Passes paths :=
  ⟨nofun, nofun, trivial⟩

/-- So do asking about directories and making them. -/
theorem Effect.Passes.of_directories {effect : Effect}
    (directories : World.IsDirectoryWork effect) : effect.Passes paths := by
  cases effect with
  | file action =>
    cases action with
    | makeDirectory path | isDirectory path => exact ⟨nofun, nofun, trivial⟩
    | _ => exact directories.elim
  | _ => exact directories.elim

theorem World.passes_tell (world : World) (text : String) :
    Passes paths changed world (world.tell text) :=
  passes_run (show (perform (.tell text)).AllAsked _ from .perform (Effect.passes_tell text)) world

/-- **Asking for a token and storing it** prints nothing and does nothing to files but the log. -/
theorem passes_renewToken (dialog : Dialog) (world : World) :
    Passes paths changed world (renewToken dialog world).2.2 := by
  have looked : Passes paths changed world (world.attempt TokenStore.get).2 :=
    passes_run (TokenStore.only_get Effect.passes_keyring Effect.passes_log) world
  rw [renewToken_eq]
  cases read : world.attempt TokenStore.get with
  | mk result later =>
    rw [read] at looked
    cases result with
    | error failure => exact looked
    | ok current =>
      have told := looked.trans
        (passes_tell later (dialog.askForToken current Retry.tokenExplanation).text)
      simp only
      split
      · exact told
      · exact told.trans (passes_run
        (Retry.only_storeAnswer Effect.passes_keyring Effect.passes_log _) _)

/-- The world after a failed attempt that has been reported. -/
def AfterFailure.world : AfterFailure → World
  | stop _ _ world => world
  | again _ world => world

/-- **Reporting a failure and asking what to do about it** does no more than that. -/
theorem passes_afterFailure (failure : Failure) (dialog : Dialog) (world : World) :
    Passes paths changed world (afterFailure failure dialog world).world := by
  have reported : Passes paths changed world (world.run (Retry.reportFailure failure)).2 :=
    passes_run (.perform (Effect.passes_log _)) world
  rw [afterFailure_eq]
  split
  · have told := reported.trans
      (passes_tell _ (dialog.askHowToGoOn (Retry.failureMessage failure)).text)
    simp only
    split
    · exact told
    · have renewed := told.trans
        (passes_renewToken (dialog.askHowToGoOn (Retry.failureMessage failure)).next _)
      split <;> exact renewed
    · exact told
    · exact told
  · exact .refl world

end Between

/-! ### Runs of attempts -/

namespace Retry

variable {α : Type} {action : Action α} {paths : Path → Prop} {changed : Location → Prop}
  {origin world : World}

/-- **How a run of attempts ends**: with an attempt that succeeds, or after one that failed. Until
then nothing has been printed, and what is elsewhere is as it was. -/
inductive Ended (paths : Path → Prop) (changed : Location → Prop) (action : Action α)
    (origin : World) : Except Failure α × Dialog × World → Prop
  | succeeded {value : α} {rest : Dialog} {before later : World} :
      Passes paths changed origin before → before.attempt action = (.ok value, later) →
      Ended paths changed action origin (.ok value, rest, later)
  | failed {failure : Failure} {rest : Dialog} {later : World} :
      Passes paths changed origin later →
      Ended paths changed action origin (.error failure, rest, later)

/-- **Runs of attempts end so**, if this is kept by the attempts that fail. By induction on the
answers that are still to come. -/
theorem ended_withRetry
    (failing : ∀ {before failure after}, Passes paths changed origin before →
      before.attempt action = (.error failure, after) → Passes paths changed before after)
    (dialog : Dialog) (begun : Passes paths changed origin world) :
    Ended paths changed action origin (withRetry action dialog world) := by
  induction patience : dialog.patience using Nat.strong_induction_on generalizing dialog world with
  | h count ih =>
    cases attempted : world.attempt action with
    | mk result after =>
      cases result with
      | ok value =>
        rw [withRetry_of_ok attempted]
        exact .succeeded begun attempted
      | error failure =>
        have reported := (begun.trans (failing begun attempted)).trans
          (passes_afterFailure failure dialog after)
        cases goesOn : afterFailure failure dialog after with
        | stop last rest later =>
          rw [goesOn] at reported
          rw [withRetry_of_stop attempted goesOn]
          exact .failed reported
        | again next later =>
          rw [goesOn] at reported
          rw [withRetry_of_again attempted goesOn]
          exact ih _ (patience ▸ patience_afterFailure goesOn) next reported rfl

end Retry

end AssetFetch
