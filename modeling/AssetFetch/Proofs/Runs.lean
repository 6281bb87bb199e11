/-
**Runs in a scripted world.**

* `World.run_bind`, `World.attempt_bind`, `World.attempt_orElse`: a sequence runs as its parts do;
* `World.related_run`: what relates a world to the one after each step relates it to the one after
  the run;
* `World.keyring_run`: a program without a keyring leaves the keyring as it is;
* `World.requests_run`, `World.requests_bind`: a program that sends nothing leaves the requests as
  they are, and `World.requests_prefix_run`: no program takes one back;
* `World.SameOutside`, `World.sameOutside_run_log`: a line for the log changes nothing of these.
-/

import AssetFetch.Proofs.Program
import AssetFetch.Proofs.Steps

namespace AssetFetch

namespace World

variable {α β : Type} {world last : World}

/-- The world with other files. -/
def withTree (world : World) (tree : FileTree) : World :=
  { world with tree }

@[simp]
theorem withTree_tree (world : World) (tree : FileTree) : (world.withTree tree).tree = tree := rfl

@[simp]
theorem withTree_faults (world : World) (tree : FileTree) :
    (world.withTree tree).faults = world.faults := rfl

/-! ### Sequences -/

section Sequences

theorem run_bind (program : Program α) (next : α → Program β) (world : World) :
    world.run (program >>= next)
      = (world.run program).2.run (next (world.run program).1) := by
  induction program generalizing world with
  | done value => rfl
  | ask effect rest ih => exact ih (world.answer effect).1 _

theorem attempt_ofExcept (result : Except Failure α) (world : World) :
    world.attempt (.ofExcept result) = (result, world) :=
  rfl

theorem attempt_ofProgram (program : Program α) (world : World) :
    world.attempt (.ofProgram program) = (.ok (world.run program).1, (world.run program).2) :=
  run_bind ..

theorem attempt_ofProgram_of_run {program : Program α} {value : α}
    (ran : world.run program = (value, last)) :
    world.attempt (.ofProgram program) = (.ok value, last) := by
  rw [attempt_ofProgram, ran]

/-- **A sequence of actions**: the second goes on where the first succeeded. -/
theorem attempt_bind (action : Action α) (next : α → Action β) (world : World) :
    world.attempt (action >>= next)
      = match world.attempt action with
        | (.ok value, later) => later.attempt (next value)
        | (.error failure, later) => (.error failure, later) := by
  refine (run_bind action.outcome _ world).trans ?_
  unfold attempt
  cases world.run action.outcome with
  | mk result later =>
    cases result with
    | ok value => rfl
    | error failure => rfl

theorem attempt_bind_of_ok {action : Action α} {next : α → Action β} {value : α}
    (ok : world.attempt action = (.ok value, last)) :
    world.attempt (action >>= next) = last.attempt (next value) := by
  rw [attempt_bind, ok]

theorem attempt_bind_of_error {action : Action α} {next : α → Action β} {failure : Failure}
    (failed : world.attempt action = (.error failure, last)) :
    world.attempt (action >>= next) = (.error failure, last) := by
  rw [attempt_bind, failed]

/-- A sequence that succeeded did so in both its parts. -/
theorem exists_of_attempt_bind {action : Action α} {next : α → Action β} {value : β}
    (ok : world.attempt (action >>= next) = (.ok value, last)) :
    ∃ first middle, world.attempt action = (.ok first, middle)
      ∧ middle.attempt (next first) = (.ok value, last) := by
  rw [attempt_bind] at ok
  split at ok
  · rename_i first middle done
    exact ⟨first, middle, done, ok⟩
  · cases congrArg Prod.fst ok

theorem attempt_orElse (action : Action α) (handler : Failure → Action α) (world : World) :
    world.attempt (action.orElse handler)
      = match world.attempt action with
        | (.ok value, later) => (.ok value, later)
        | (.error failure, later) => later.attempt (handler failure) := by
  refine (run_bind action.outcome _ world).trans ?_
  unfold attempt
  cases world.run action.outcome with
  | mk result later =>
    cases result with
    | ok value => rfl
    | error failure => rfl

end Sequences

/-! ### What a run leaves -/

section Related

variable {kind : Effect → Prop}

/-- **What relates a world to the one after every step relates it to the one after the run.** -/
theorem related_run (related : World → World → Prop) (refl : ∀ world, related world world)
    (trans : ∀ {first second third}, related first second → related second third →
      related first third)
    (step : ∀ world effect, kind effect → related world (world.answer effect).2)
    {program : Program α} (asked : program.AllAsked kind) (world : World) :
    related world (world.run program).2 := by
  induction asked generalizing world with
  | done value => exact refl world
  | ask effect next here _ ih => exact trans (step world effect here) (ih _ _)

end Related

end World

/-- Effects that are no requests. -/
def Effect.IsUnsent (effect : Effect) : Prop :=
  ∀ request, effect ≠ .send request

theorem Effect.IsMute.unsent {effect : Effect} (mute : effect.IsMute) : effect.IsUnsent := by
  rintro request rfl
  exact mute.elim

namespace World

variable {α β : Type} {world : World}

/-! ### The keyring and the requests -/

section Frames

/-- What the files, the log and the terminal have to do with leaves the keyring and the requests
alone. -/
structure SameOutside (before after : World) : Prop where
  keyring : after.keyring = before.keyring
  requests : after.requests = before.requests

theorem SameOutside.refl (world : World) : world.SameOutside world := ⟨rfl, rfl⟩

theorem SameOutside.trans {first second third : World} (left : first.SameOutside second)
    (right : second.SameOutside third) : first.SameOutside third :=
  ⟨right.keyring.trans left.keyring, right.requests.trans left.requests⟩

theorem sameOutside_log (record : LogLine) : world.SameOutside (world.log record) := by
  obtain ⟨_, _, same, _⟩ := world.exists_of_log record
  exact same ▸ ⟨rfl, rfl⟩

/-- **One effect**: what neither uses the keyring nor sends anything leaves both alone. -/
theorem sameOutside_answer {effect : Effect} (unsent : effect.IsUnsent)
    (keyless : ∀ action, effect ≠ .keyring action) :
    world.SameOutside (world.answer effect).2 := by
  cases effect with
  | file action =>
    obtain ⟨_, _, same, _⟩ := world.exists_of_onFile action
    exact ⟨(congrArg World.keyring same :), (congrArg World.requests same :)⟩
  | keyring action => exact absurd rfl (keyless action)
  | send request => exact absurd rfl (unsent request)
  | log record => exact sameOutside_log record
  | openLog path level =>
    obtain ⟨_, _, _, same⟩ := world.exists_of_openLog path level
    exact ⟨(congrArg World.keyring same :), (congrArg World.requests same :)⟩
  | print text =>
    obtain ⟨_, same⟩ := world.exists_of_print text
    exact ⟨(congrArg World.keyring same :), (congrArg World.requests same :)⟩
  | report percent delta =>
    obtain ⟨_, _, same⟩ := world.exists_of_report percent delta
    exact ⟨(congrArg World.keyring same :), (congrArg World.requests same :)⟩
  | progress read total =>
    have same := world.progress_snd read total
    exact ⟨(congrArg World.keyring same :), (congrArg World.requests same :)⟩
  | _ => exact ⟨rfl, rfl⟩

theorem requests_onSend (request : Request) :
    (world.onSend request).2.requests = world.requests ++ [request] := by
  obtain ⟨_, _, same⟩ := world.exists_of_onSend request
  rw [same]

theorem requests_onKeyring (action : KeyringAction) :
    (world.onKeyring action).2.requests = world.requests := by
  obtain ⟨_, same⟩ := world.exists_of_onKeyring action
  rw [same]

theorem keyring_answer_of_plain {effect : Effect} (plain : effect.IsPlain) :
    (world.answer effect).2.keyring = world.keyring := by
  cases effect with
  | keyring action => exact plain.elim
  | send request =>
    obtain ⟨_, _, same⟩ := world.exists_of_onSend request
    exact (congrArg World.keyring same :)
  | _ => exact SameOutside.keyring (sameOutside_answer nofun nofun)

theorem requests_answer_of_unsent {effect : Effect} (unsent : effect.IsUnsent) :
    (world.answer effect).2.requests = world.requests := by
  cases effect with
  | keyring action => exact requests_onKeyring action
  | send request => exact absurd rfl (unsent request)
  | _ => exact SameOutside.requests (sameOutside_answer nofun nofun)

theorem requests_prefix_answer (effect : Effect) :
    world.requests <+: (world.answer effect).2.requests := by
  by_cases unsent : effect.IsUnsent
  · have same : (world.answer effect).2.requests = world.requests :=
      requests_answer_of_unsent unsent
    exact same ▸ List.prefix_rfl
  · obtain ⟨request, rfl⟩ : ∃ request, effect = .send request := by
      simpa [Effect.IsUnsent] using unsent
    have sent : (world.answer (.send request)).2.requests = world.requests ++ [request] :=
      requests_onSend request
    rw [sent]
    exact List.prefix_append ..

end Frames

/-! ### Whole runs -/

section WholeRuns

/-- **A program that does without the keyring leaves it alone.** -/
theorem keyring_run {program : Program α} (plain : program.AllAsked Effect.IsPlain)
    (world : World) : (world.run program).2.keyring = world.keyring :=
  related_run (fun before after => after.keyring = before.keyring) (fun _ => rfl)
    (fun left right => right.trans left) (fun _ _ => keyring_answer_of_plain) plain world

/-- **A program that sends nothing leaves the requests as they are.** -/
theorem requests_run {program : Program α} (unsent : program.AllAsked Effect.IsUnsent)
    (world : World) : (world.run program).2.requests = world.requests :=
  related_run (fun before after => after.requests = before.requests) (fun _ => rfl)
    (fun left right => right.trans left) (fun _ _ => requests_answer_of_unsent) unsent world

/-- What sends nothing adds no requests to what comes before it. -/
theorem requests_bind {program : Program α} {next : α → Program β}
    (unsent : ∀ value, (next value).AllAsked Effect.IsUnsent) (world : World) :
    (world.run (program >>= next)).2.requests = (world.run program).2.requests := by
  rw [run_bind]
  exact requests_run (unsent _) _

theorem requests_attempt_bind {action : Action α} {next : α → Action β}
    (unsent : ∀ value, (next value).Only Effect.IsUnsent) (world : World) :
    (world.attempt (action >>= next)).2.requests = (world.attempt action).2.requests :=
  requests_bind (fun result =>
    match result with
    | .ok value => unsent value
    | .error _ => .done _) world

theorem requests_attempt_orElse {action : Action α} {handler : Failure → Action α}
    (unsent : ∀ failure, (handler failure).Only Effect.IsUnsent) (world : World) :
    (world.attempt (action.orElse handler)).2.requests = (world.attempt action).2.requests :=
  requests_bind (fun result =>
    match result with
    | .ok _ => .done _
    | .error failure => unsent failure) world

/-- No program takes a request back. -/
theorem requests_prefix_run (program : Program α) (world : World) :
    world.requests <+: (world.run program).2.requests := by
  induction program generalizing world with
  | done value => exact List.prefix_rfl
  | ask effect next ih => exact (requests_prefix_answer effect).trans (ih _ _)

theorem sameOutside_run_log (severity : Severity) (logger message : String) (world : World) :
    world.SameOutside (world.run (logLine severity logger message)).2 :=
  sameOutside_log _

theorem attempt_log (severity : Severity) (logger message : String) (world : World) :
    world.attempt (AssetFetch.log severity logger message)
      = (.ok (), (world.run (logLine severity logger message)).2) :=
  attempt_ofProgram ..

end WholeRuns

end World

end AssetFetch
