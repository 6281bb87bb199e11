/-
**Surroundings of every kind.**

A world answers a program from a script, wishes to stop at one call of its follower at most and so
on. Here everything that is not up to the program is free: what each request meets, whether there is
a wish to stop at each look, how each call of the follower ends, and which operations on files are
refused. The files alone obey their laws.

* `Surroundings`, `Scene`: what is free, and how far things have come;
* `Surroundings.answer`: the reply to an effect, and the scene after it;
* `Surroundings.run`, `Surroundings.attempt`: a program and an action;
* `Surroundings.trace`: every effect with the files before and after it;
* `attempt_bind`, `trace_bind_of_ok` and their kin: a sequence runs as its parts do;
* `Surroundings.Keeps`, `keepsRun_of_allAsked`: what every step keeps, the whole run keeps.
-/

import AssetFetch.Proofs.Program
import AssetFetch.World

namespace AssetFetch

/-- Failures that operations on files meet whatever the files are like; `write` counts the writes.
-/
structure Refusals where
  create : Option Failure
  write : Nat → Option Failure
  flush : Option Failure
  sync : Option Failure
  close : Option Failure
  setMode : Option Failure
  rename : Option Failure
  remove : Option Failure

/-- No refusal. -/
def Refusals.none : Refusals :=
  ⟨.none, fun _ => .none, .none, .none, .none, .none, .none, .none⟩

/-- The refusal that an operation meets after some writes. -/
def Refusals.of (refusals : Refusals) (writes : Nat) : FileAction → Option Failure
  | .create _ _ => refusals.create
  | .append _ _ => refusals.write writes
  | .flush _ => refusals.flush
  | .sync _ => refusals.sync
  | .close _ => refusals.close
  | .setMode _ _ => refusals.setMode
  | .rename _ _ => refusals.rename
  | .remove _ => refusals.remove
  | _ => .none

/-- What is not up to a program: the random part of a name, what the requests meet one after the
other, whether there is a wish to stop at the look of some number, how the call of the follower of
some number ends, and the refusals. -/
structure Surroundings where
  name : String
  script : List (Except Failure Response)
  stop : Nat → Bool
  follow : Nat → Except Failure Unit
  refusals : Refusals

/-- How far things have come: the files, the numbers of requests, looks and writes, and what the
follower and the display were told. -/
structure Scene where
  tree : FileTree
  sent : Nat
  looks : Nat
  writes : Nat
  calls : List (Nat × Nat)
  reports : List PercentTracker.Report
  deriving DecidableEq, Inhabited

/-- Nothing has happened yet. -/
def Scene.start (tree : FileTree) : Scene := ⟨tree, 0, 0, 0, [], []⟩

/-- An effect with the files before and after it. -/
structure Step where
  effect : Effect
  before : FileTree
  after : FileTree
  deriving Inhabited

/-- A world with files and nothing else. -/
def World.ofFiles (tree : FileTree) : World := { World.empty with tree }

namespace Surroundings

/-! ### Answers -/

/-- The reply to an operation on files: the refusal that it meets, or what a world with these files
replies. -/
def onFile (surroundings : Surroundings) (scene : Scene) (action : FileAction) :
    Except Failure action.Result × FileTree :=
  match surroundings.refusals.of scene.writes action with
  | some failure => (.error failure, scene.tree)
  | none =>
    let answered := (World.ofFiles scene.tree).onFile action
    (answered.1, answered.2.tree)

/-- Whether an operation is counted as a write. -/
def isWrite : FileAction → Bool
  | .append _ _ => true
  | _ => false

/-- The reply to an effect, and the scene after it. The keyring is empty, and the log goes nowhere.
-/
def answer (surroundings : Surroundings) (scene : Scene) :
    (effect : Effect) → effect.Reply × Scene
  | .file action =>
    let answered := surroundings.onFile scene action
    (answered.1, { scene with
      tree := answered.2
      writes := if isWrite action then scene.writes + 1 else scene.writes })
  | .keyring action => ((World.empty.onKeyring action).1, scene)
  | .send _ =>
    ((surroundings.script[scene.sent]?).getD (.error World.noMoreResponses),
      { scene with sent := scene.sent + 1 })
  | .close => ((), scene)
  | .log _ => ((), scene)
  | .setUpLog _ _ => ((), scene)
  | .openLog _ _ => (.ok (), scene)
  | .print text => ((World.empty.print text).1, scene)
  | .tell _ => ((), scene)
  | .randomName => (surroundings.name, scene)
  | .isCancelled => (surroundings.stop scene.looks, { scene with looks := scene.looks + 1 })
  | .announce _ => ((), scene)
  | .report percent delta => ((), { scene with reports := scene.reports ++ [⟨percent, delta⟩] })
  | .progress read total =>
    (surroundings.follow scene.calls.length, { scene with calls := scene.calls ++ [(read, total)] })

/-- The result of a program, and the scene after it. -/
def run {α : Type} (surroundings : Surroundings) : Program α → Scene → α × Scene
  | .done value, scene => (value, scene)
  | .ask effect next, scene =>
    let answered := surroundings.answer scene effect
    surroundings.run (next answered.1) answered.2

/-- Every effect of a program with the files before and after it. -/
def steps {α : Type} (surroundings : Surroundings) : Program α → Scene → List Step
  | .done _, _ => []
  | .ask effect next, scene =>
    let answered := surroundings.answer scene effect
    ⟨effect, scene.tree, answered.2.tree⟩ :: surroundings.steps (next answered.1) answered.2

/-- The outcome of an action, and the scene after it. -/
def attempt {α : Type} (surroundings : Surroundings) (action : Action α) (scene : Scene) :
    Except Failure α × Scene :=
  surroundings.run action.outcome scene

/-- Every effect of an action with the files before and after it. -/
def trace {α : Type} (surroundings : Surroundings) (action : Action α) (scene : Scene) :
    List Step :=
  surroundings.steps action.outcome scene

/-- Surroundings in which nothing goes wrong but what the responses bring. -/
def calm (name : String) (script : List (Except Failure Response)) : Surroundings :=
  ⟨name, script, fun _ => false, fun _ => .ok (), .none⟩

/-! ### Runs of sequences -/

section Runs

variable {α β : Type} {surroundings : Surroundings} {scene last : Scene}

theorem run_bind (program : Program α) (next : α → Program β) (scene : Scene) :
    surroundings.run (program >>= next) scene
      = surroundings.run (next (surroundings.run program scene).1)
          (surroundings.run program scene).2 := by
  induction program generalizing scene with
  | done value => rfl
  | ask effect rest ih => exact ih (surroundings.answer scene effect).1 _

theorem steps_bind (program : Program α) (next : α → Program β) (scene : Scene) :
    surroundings.steps (program >>= next) scene
      = surroundings.steps program scene
        ++ surroundings.steps (next (surroundings.run program scene).1)
            (surroundings.run program scene).2 := by
  induction program generalizing scene with
  | done value => rfl
  | ask effect rest ih => exact congrArg _ (ih (surroundings.answer scene effect).1 _)

theorem attempt_ofExcept (result : Except Failure α) (scene : Scene) :
    surroundings.attempt (.ofExcept result) scene = (result, scene) :=
  rfl

theorem attempt_throw (failure : Failure) (scene : Scene) :
    surroundings.attempt (throw failure : Action α) scene = (.error failure, scene) :=
  rfl

/-- **A sequence of actions**: the second goes on where the first succeeded. -/
theorem attempt_bind (action : Action α) (next : α → Action β) (scene : Scene) :
    surroundings.attempt (action >>= next) scene
      = match surroundings.attempt action scene with
        | (.ok value, later) => surroundings.attempt (next value) later
        | (.error failure, later) => (.error failure, later) := by
  refine (run_bind action.outcome _ scene).trans ?_
  unfold attempt
  cases surroundings.run action.outcome scene with
  | mk result later =>
    cases result with
    | ok value => rfl
    | error failure => rfl

/-- A sequence whose first part succeeds goes on with the second. -/
theorem attempt_bind_of_ok {action : Action α} {next : α → Action β} {value : α}
    (ok : surroundings.attempt action scene = (.ok value, last)) :
    surroundings.attempt (action >>= next) scene = surroundings.attempt (next value) last := by
  rw [attempt_bind, ok]

theorem attempt_bind_of_error {action : Action α} {next : α → Action β} {failure : Failure}
    (error : surroundings.attempt action scene = (.error failure, last)) :
    surroundings.attempt (action >>= next) scene = (.error failure, last) := by
  rw [attempt_bind, error]

theorem attempt_orElse (action : Action α) (handler : Failure → Action α) (scene : Scene) :
    surroundings.attempt (action.orElse handler) scene
      = match surroundings.attempt action scene with
        | (.ok value, later) => (.ok value, later)
        | (.error failure, later) => surroundings.attempt (handler failure) later := by
  refine (run_bind action.outcome _ scene).trans ?_
  unfold attempt
  cases surroundings.run action.outcome scene with
  | mk result later =>
    cases result with
    | ok value => rfl
    | error failure => rfl

theorem attempt_whatever (action : Action α) (final : Action Unit) (scene : Scene) :
    surroundings.attempt (action.whatever final) scene
      = match surroundings.attempt action scene with
        | (.ok value, later) =>
          surroundings.attempt (do final; pure value : Action α) later
        | (.error failure, later) =>
          surroundings.attempt (do final; throw failure : Action α) later := by
  refine (run_bind action.outcome _ scene).trans ?_
  unfold attempt
  cases surroundings.run action.outcome scene with
  | mk result later =>
    cases result with
    | ok value => rfl
    | error failure => rfl

/-- **A sequence succeeds exactly when both parts do.** -/
theorem attempt_bind_eq_ok_iff {action : Action α} {next : α → Action β} {result : β} :
    surroundings.attempt (action >>= next) scene = (.ok result, last)
      ↔ ∃ value later, surroundings.attempt action scene = (.ok value, later)
          ∧ surroundings.attempt (next value) later = (.ok result, last) := by
  rw [attempt_bind]
  cases first : surroundings.attempt action scene with
  | mk result later =>
    cases result with
    | ok value =>
      refine ⟨fun ok => ⟨value, later, rfl, ok⟩, ?_⟩
      rintro ⟨_, _, same, ok⟩
      cases same
      exact ok
    | error failure => simp

/-- What is done whatever an action comes to leaves its success if it succeeds itself. -/
theorem attempt_whatever_eq_ok_iff {action : Action α} {final : Action Unit} {result : α} :
    surroundings.attempt (action.whatever final) scene = (.ok result, last)
      ↔ ∃ later, surroundings.attempt action scene = (.ok result, later)
          ∧ surroundings.attempt final later = (.ok (), last) := by
  rw [attempt_whatever]
  cases first : surroundings.attempt action scene with
  | mk outcome later =>
    cases outcome with
    | ok value =>
      simp only
      rw [attempt_bind_eq_ok_iff]
      constructor
      · rintro ⟨_, after, done, same⟩
        cases same
        exact ⟨later, rfl, done⟩
      · rintro ⟨_, same, done⟩
        cases same
        exact ⟨(), last, done, rfl⟩
    | error failure =>
      simp only
      rw [attempt_bind_eq_ok_iff]
      constructor
      · rintro ⟨_, _, _, same⟩
        cases same
      · rintro ⟨_, same, _⟩
        cases same

/-- What only turns failures into failures succeeds as it does without. -/
theorem attempt_orElse_eq_ok_iff {action : Action α} {handler : Failure → Action α} {result : α}
    (fails : ∀ failure later, ∃ other,
      (surroundings.attempt (handler failure) later).1 = .error other) :
    surroundings.attempt (action.orElse handler) scene = (.ok result, last)
      ↔ surroundings.attempt action scene = (.ok result, last) := by
  rw [attempt_orElse]
  split
  · rename_i done
    rw [done]
  · rename_i failure later failed
    obtain ⟨other, same⟩ := fails failure later
    rw [failed]
    constructor
    · intro ok
      rw [ok] at same
      cases same
    · intro ok
      cases ok

/-- What does not succeed fails. -/
theorem exists_failure {action : Action α}
    (unsuccessful : (surroundings.attempt action scene).1.isOk = false) :
    ∃ failure later, surroundings.attempt action scene = (.error failure, later) := by
  cases ended : surroundings.attempt action scene with
  | mk outcome later =>
    cases outcome with
    | ok value =>
      rw [ended] at unsuccessful
      cases unsuccessful
    | error failure => exact ⟨failure, later, rfl⟩

/-- What does not fail succeeds. -/
theorem exists_success {action : Action α}
    (successful : (surroundings.attempt action scene).1.isOk = true) :
    ∃ value later, surroundings.attempt action scene = (.ok value, later) := by
  cases ended : surroundings.attempt action scene with
  | mk outcome later =>
    cases outcome with
    | ok value => exact ⟨value, later, rfl⟩
    | error failure =>
      rw [ended] at successful
      cases successful

end Runs

/-! ### Traces of sequences -/

section Traces

variable {α β : Type} {surroundings : Surroundings} {scene later : Scene}

/-- **The trace of a sequence that goes on.** -/
theorem trace_bind_of_ok {action : Action α} {next : α → Action β} {value : α}
    (ok : surroundings.attempt action scene = (.ok value, later)) :
    surroundings.trace (action >>= next) scene
      = surroundings.trace action scene ++ surroundings.trace (next value) later := by
  refine (steps_bind action.outcome _ scene).trans ?_
  rw [show surroundings.run action.outcome scene = (.ok value, later) from ok]
  rfl

/-- The trace of a sequence that ends with its first part. -/
theorem trace_bind_of_error {action : Action α} {next : α → Action β} {failure : Failure}
    (failed : surroundings.attempt action scene = (.error failure, later)) :
    surroundings.trace (action >>= next) scene = surroundings.trace action scene := by
  refine (steps_bind action.outcome _ scene).trans ?_
  rw [show surroundings.run action.outcome scene = (.error failure, later) from failed]
  exact List.append_nil _

theorem trace_orElse_of_ok {action : Action α} {handler : Failure → Action α} {value : α}
    (ok : surroundings.attempt action scene = (.ok value, later)) :
    surroundings.trace (action.orElse handler) scene = surroundings.trace action scene := by
  refine (steps_bind action.outcome _ scene).trans ?_
  rw [show surroundings.run action.outcome scene = (.ok value, later) from ok]
  exact List.append_nil _

end Traces

/-! ### What a run keeps -/

section Kept

variable {α β : Type} {surroundings : Surroundings} {scene : Scene}
  {holds : FileTree → Prop} {kind : Effect → Prop}

/-- A property of the files holds before and after every step of a program, and in the end. -/
def KeepsRun (surroundings : Surroundings) (holds : FileTree → Prop) (program : Program α)
    (scene : Scene) : Prop :=
  (∀ step ∈ surroundings.steps program scene, holds step.before ∧ holds step.after)
    ∧ holds (surroundings.run program scene).2.tree

/-- A property of the files holds before and after every step of an action, and in the end. -/
def Keeps (surroundings : Surroundings) (holds : FileTree → Prop) (action : Action α)
    (scene : Scene) : Prop :=
  surroundings.KeepsRun holds action.outcome scene

/-- **What every step of some kind keeps, a run of such steps keeps.** -/
theorem keepsRun_of_allAsked {program : Program α} (asked : program.AllAsked kind)
    (step : ∀ scene effect, kind effect → holds scene.tree →
      holds (surroundings.answer scene effect).2.tree)
    (first : holds scene.tree) : surroundings.KeepsRun holds program scene := by
  induction asked generalizing scene with
  | done value => exact ⟨by simp [steps], first⟩
  | ask effect next here _ ih =>
    have second := step scene effect here first
    obtain ⟨through, last⟩ := ih (surroundings.answer scene effect).1 second
    refine ⟨?_, last⟩
    intro taken member
    rcases List.mem_cons.mp member with rfl | later
    · exact ⟨first, second⟩
    · exact through taken later

theorem KeepsRun.done (value : α) (reached : holds scene.tree) :
    surroundings.KeepsRun holds (.done value) scene :=
  ⟨fun _ member => absurd member List.not_mem_nil, reached⟩

/-- A single effect keeps what holds before and after it. -/
theorem KeepsRun.perform {effect : Effect} (before : holds scene.tree)
    (after : holds (surroundings.answer scene effect).2.tree) :
    surroundings.KeepsRun holds (perform effect) scene := by
  refine ⟨fun step member => ?_, after⟩
  rw [List.mem_singleton.mp member]
  exact ⟨before, after⟩

theorem KeepsRun.bind {program : Program α} {next : α → Program β}
    (first : surroundings.KeepsRun holds program scene)
    (rest : holds (surroundings.run program scene).2.tree →
      surroundings.KeepsRun holds (next (surroundings.run program scene).1)
        (surroundings.run program scene).2) :
    surroundings.KeepsRun holds (program >>= next) scene := by
  obtain ⟨through, last⟩ := rest first.2
  refine ⟨?_, ?_⟩
  · intro step member
    rw [steps_bind] at member
    rcases List.mem_append.mp member with early | late
    · exact first.1 step early
    · exact through step late
  · rw [run_bind]
    exact last

theorem keeps_of_only {action : Action α} (only : action.Only kind)
    (step : ∀ scene effect, kind effect → holds scene.tree →
      holds (surroundings.answer scene effect).2.tree)
    (first : holds scene.tree) : surroundings.Keeps holds action scene :=
  keepsRun_of_allAsked only step first

theorem Keeps.mono {weaker : FileTree → Prop} {action : Action α}
    (kept : surroundings.Keeps holds action scene) (weaken : ∀ tree, holds tree → weaker tree) :
    surroundings.Keeps weaker action scene :=
  ⟨fun step member => ⟨weaken _ (kept.1 step member).1, weaken _ (kept.1 step member).2⟩,
    weaken _ kept.2⟩

/-- A sequence keeps what its parts keep, the second where the first succeeds. -/
theorem Keeps.bind {action : Action α} {next : α → Action β}
    (first : surroundings.Keeps holds action scene)
    (rest : ∀ value later, surroundings.attempt action scene = (.ok value, later) →
      holds later.tree → surroundings.Keeps holds (next value) later) :
    surroundings.Keeps holds (action >>= next) scene := by
  refine KeepsRun.bind first fun reached => ?_
  cases ran : surroundings.run action scene with
  | mk result later =>
    rw [ran] at reached
    cases result with
    | ok value => exact rest value later ran reached
    | error failure => exact .done _ reached

theorem Keeps.orElse {action : Action α} {handler : Failure → Action α}
    (first : surroundings.Keeps holds action scene)
    (other : ∀ failure later, surroundings.attempt action scene = (.error failure, later) →
      holds later.tree → surroundings.Keeps holds (handler failure) later) :
    surroundings.Keeps holds (action.orElse handler) scene := by
  refine KeepsRun.bind first fun reached => ?_
  cases ran : surroundings.run action.outcome scene with
  | mk result later =>
    rw [ran] at reached
    cases result with
    | ok value => exact .done _ reached
    | error failure => exact other failure later ran reached

theorem Keeps.whatever {action : Action α} {final : Action Unit}
    (first : surroundings.Keeps holds action scene)
    (after : ∀ later, holds later.tree → surroundings.Keeps holds final later) :
    surroundings.Keeps holds (action.whatever final) scene := by
  refine KeepsRun.bind first fun reached => ?_
  cases ran : surroundings.run action.outcome scene with
  | mk result later =>
    rw [ran] at reached
    cases result with
    | ok value =>
      exact Keeps.bind (after later reached) fun _ _ _ kept => .done _ kept
    | error failure =>
      exact Keeps.bind (after later reached) fun _ _ _ kept => .done _ kept

end Kept

end Surroundings

end AssetFetch
