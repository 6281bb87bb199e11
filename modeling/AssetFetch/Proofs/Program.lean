/-
**What a program may ask for.**

* `Effect.IsPlain`, `Effect.IsQuiet`, `Effect.IsMute`: effects that need neither a keyring nor
  another log and print nothing, among them those that leave the files alone, and among these those
  that send nothing;
* `Program.AllAsked kind program`: on every path, whatever the replies, the program asks only for
  effects of a kind. Closed under sequence;
* `Action.Only kind action`: the same of an action, closed under sequence, `orElse` and `whatever`.
-/

import AssetFetch.Program

namespace AssetFetch

/-! ### Kinds of effects -/

namespace Effect

/-- Effects that need neither a keyring nor another log, and print nothing. -/
def IsPlain : Effect → Prop
  | keyring _ => False
  | setUpLog _ _ => False
  | openLog _ _ => False
  | print _ => False
  | _ => True

/-- Effects among them on other things than files. -/
def IsQuiet : Effect → Prop
  | file _ => False
  | effect => effect.IsPlain

/-- Effects among these that send nothing. -/
def IsMute : Effect → Prop
  | send _ => False
  | effect => effect.IsQuiet

theorem IsQuiet.plain {effect : Effect} (quiet : effect.IsQuiet) : effect.IsPlain := by
  cases effect with
  | file action => exact quiet.elim
  | _ => exact quiet

theorem IsMute.quiet {effect : Effect} (mute : effect.IsMute) : effect.IsQuiet := by
  cases effect with
  | send request => exact mute.elim
  | _ => exact mute

end Effect

/-! ### Programs -/

namespace Program

variable {α β : Type} {kind : Effect → Prop}

/-- The order in which programs are put together does not matter. -/
instance : LawfulMonad Program :=
  .mk' Program
    (fun program => by
      induction program with
      | done value => rfl
      | ask effect next ih => exact congrArg (Program.ask effect) (funext ih))
    (fun _ _ => rfl)
    (fun program _ _ => by
      induction program with
      | done value => rfl
      | ask effect next ih => exact congrArg (Program.ask effect) (funext ih))

/-- On every path the program asks only for effects of a kind. -/
inductive AllAsked (kind : Effect → Prop) {α : Type} : Program α → Prop
  | done (value : α) : AllAsked kind (.done value)
  | ask (effect : Effect) (next : effect.Reply → Program α) :
      kind effect → (∀ reply, AllAsked kind (next reply)) → AllAsked kind (.ask effect next)

namespace AllAsked

/-- **A sequence asks for what its parts ask for.** -/
theorem bind {program : Program α} {next : α → Program β} (first : AllAsked kind program)
    (rest : ∀ value, AllAsked kind (next value)) : AllAsked kind (program >>= next) := by
  induction first with
  | done value => exact rest value
  | ask effect _ here _ ih => exact .ask effect _ here ih

/-- What asks for effects of a kind asks for effects of every wider kind. -/
theorem mono {wider : Effect → Prop} (widen : ∀ effect, kind effect → wider effect)
    {program : Program α} (asked : AllAsked kind program) : AllAsked wider program := by
  induction asked with
  | done value => exact .done value
  | ask effect next here _ ih => exact .ask effect next (widen effect here) ih

theorem perform {effect : Effect} (here : kind effect) : AllAsked kind (perform effect) :=
  .ask effect _ here .done

end AllAsked

end Program

/-! ### Actions -/

namespace Action

open Program

variable {α β : Type} {kind : Effect → Prop}

/-- On every path the action asks only for effects of a kind. -/
def Only (kind : Effect → Prop) (action : Action α) : Prop :=
  AllAsked kind action.outcome

namespace Only

theorem mono {wider : Effect → Prop} (widen : ∀ effect, kind effect → wider effect)
    {action : Action α} (only : Only kind action) : Only wider action :=
  AllAsked.mono widen only

theorem quiet {action : Action α} (mute : Only Effect.IsMute action) :
    Only Effect.IsQuiet action :=
  mute.mono fun _ => Effect.IsMute.quiet

theorem plain {action : Action α} (mute : Only Effect.IsMute action) :
    Only Effect.IsPlain action :=
  mute.mono fun _ mute => mute.quiet.plain

theorem pure (value : α) : Only kind (Pure.pure value : Action α) :=
  .done _

theorem throw (failure : Failure) : Only kind (throw failure : Action α) :=
  .done _

theorem bind {action : Action α} {next : α → Action β} (first : Only kind action)
    (rest : ∀ value, Only kind (next value)) : Only kind (action >>= next) :=
  AllAsked.bind first fun result =>
    match result with
    | .ok value => rest value
    | .error _ => .done _

theorem ofExcept (result : Except Failure α) : Only kind (Action.ofExcept result) :=
  .done _

theorem attempt {program : Program (Except Failure α)} (asked : AllAsked kind program) :
    Only kind (Action.attempt program) :=
  asked

theorem ofProgram {program : Program α} (asked : AllAsked kind program) :
    Only kind (Action.ofProgram program) :=
  asked.bind fun _ => .done _

theorem orElse {action : Action α} {handler : Failure → Action α} (first : Only kind action)
    (other : ∀ failure, Only kind (handler failure)) : Only kind (action.orElse handler) :=
  AllAsked.bind first fun result =>
    match result with
    | .ok _ => .done _
    | .error failure => other failure

theorem whatever {action : Action α} {last : Action Unit} (first : Only kind action)
    (after : Only kind last) : Only kind (action.whatever last) :=
  AllAsked.bind first fun result =>
    match result with
    | .ok value => bind after fun _ => pure value
    | .error failure => bind after fun _ => throw failure

theorem ite {condition : Prop} [Decidable condition] {yes no : Action α} (first : Only kind yes)
    (second : Only kind no) : Only kind (if condition then yes else no) := by
  split
  · exact first
  · exact second

end Only

end Action

theorem only_log (severity : Severity) (logger message : String) :
    (log severity logger message).Only Effect.IsMute :=
  .ofProgram (.perform trivial)

end AssetFetch
