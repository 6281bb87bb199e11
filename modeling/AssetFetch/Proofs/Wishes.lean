/-
**When a program hears of a wish to stop.**

There is a wish to stop once the follower has been called some number of times, or from the start. A
program hears of it only where it looks.

* `World.WishesFrom`, `wishesFrom_answer`: such a wish in a scripted world, and that every step
  keeps it;
* `exists_of_mem_follows`: what a program hears from the follower fails only as the follower is
  meant to;
* `Surroundings.StopsFrom`: what every look of a program hears, in surroundings;
* `exists_stopping`: surroundings of a world with such a wish;
* `Surroundings.Ends`, `ends_of_bind` and their kin: how a sequence ends, by its parts.
-/

import AssetFetch.Proofs.Failures
import AssetFetch.Proofs.World

namespace AssetFetch

/-! ### A wish in a world -/

section Wishing

variable {world : World} {call : Nat}

/-- There is a wish to stop exactly once the follower has been called some number of times: it is
there from the start, or the follower makes it at that call. -/
structure World.WishesFrom (world : World) (call : Nat) : Prop where
  now : world.cancelled = true ↔ call ≤ world.follower.calls.length
  later : world.follower.calls.length < call → world.follower.cancelAt = some call

/-- The wish to stop, the follower and the file of the log are as before. -/
structure World.SameWish (before after : World) : Prop where
  cancelled : after.cancelled = before.cancelled
  follower : after.follower = before.follower
  logFile : after.logFile = before.logFile

/-- The call of the follower fails only as the follower is meant to. -/
theorem exists_of_progress_error {read total : Nat} {failure : Failure}
    (failed : (world.progress read total).1 = .error failure) :
    ∃ number, world.follower.failAt = some (number, failure) := by
  unfold World.progress at failed
  simp only at failed
  split at failed
  · rename_i number other fails
    split at failed
    · cases failed
      exact ⟨number, fails⟩
    · cases failed
  · cases failed

/-- **A step leaves the wish and the follower alone**, unless it calls the follower. -/
theorem sameWish_answer (unlogged : world.logFile = none) {effect : Effect}
    (plain : effect.IsPlain) (uncalled : ∀ read total, effect ≠ .progress read total) :
    world.SameWish (world.answer effect).2 := by
  cases effect with
  | progress read total => exact absurd rfl (uncalled read total)
  | file action =>
    obtain ⟨_, same⟩ := World.exists_of_onFile_of_unlogged unlogged action
    show world.SameWish (world.onFile action).2
    rw [same]
    exact ⟨rfl, rfl, rfl⟩
  | send request =>
    obtain ⟨_, _, same⟩ := world.exists_of_onSend request
    show world.SameWish (world.onSend request).2
    rw [same]
    exact ⟨rfl, rfl, rfl⟩
  | log record =>
    obtain ⟨_, _, same, _⟩ := world.exists_of_log record
    show world.SameWish (world.log record)
    rw [same]
    exact ⟨rfl, rfl, rfl⟩
  | report percent delta =>
    obtain ⟨_, _, same⟩ := world.exists_of_report percent delta
    show world.SameWish (world.report percent delta)
    rw [same]
    exact ⟨rfl, rfl, rfl⟩
  | keyring action | openLog path level | setUpLog level console | print text => exact plain.elim
  | close | tell text | announce title | randomName | isCancelled => exact ⟨rfl, rfl, rfl⟩

/-- **Every step keeps the wish**; the follower makes it at its call. -/
theorem wishesFrom_answer (unlogged : world.logFile = none) {effect : Effect}
    (plain : effect.IsPlain) (wishes : world.WishesFrom call) :
    (world.answer effect).2.WishesFrom call := by
  obtain ⟨now, later⟩ := wishes
  by_cases called : ∃ read total, effect = .progress read total
  · obtain ⟨read, total, rfl⟩ := called
    show (world.progress read total).2.WishesFrom call
    rw [world.progress_snd]
    constructor
    · simp only [Bool.or_eq_true, now, beq_iff_eq, List.length_append, List.length_singleton]
      by_cases early : call ≤ world.follower.calls.length
      · simp only [early, true_or, true_iff]
        omega
      · rw [later (by omega), Option.some_inj]
        omega
    · simp only [List.length_append, List.length_singleton]
      exact fun still => later (by omega)
  · have same := sameWish_answer unlogged plain fun read total is => called ⟨read, total, is⟩
    constructor
    · rwa [same.cancelled, same.follower]
    · rwa [same.follower]

/-- The file of the log and the way in which the follower is to fail are as before. -/
structure World.SameTerms (before after : World) : Prop where
  logFile : after.logFile = before.logFile
  failAt : after.follower.failAt = before.follower.failAt

theorem sameTerms_answer (unlogged : world.logFile = none) {effect : Effect}
    (plain : effect.IsPlain) : world.SameTerms (world.answer effect).2 := by
  by_cases called : ∃ read total, effect = .progress read total
  · obtain ⟨read, total, rfl⟩ := called
    show world.SameTerms (world.progress read total).2
    rw [world.progress_snd]
    exact ⟨rfl, rfl⟩
  · have same := sameWish_answer unlogged plain fun read total is => called ⟨read, total, is⟩
    exact ⟨same.logFile, congrArg Follower.failAt same.follower⟩

/-- What a program hears from the follower fails only as the follower is meant to. -/
theorem exists_of_mem_follows {α : Type} {failure : Failure} {program : Program α}
    (plain : program.AllAsked Effect.IsPlain) (unlogged : world.logFile = none)
    (member : .error failure ∈ world.follows program) :
    ∃ number, world.follower.failAt = some (number, failure) := by
  induction plain generalizing world with
  | done value => cases member
  | ask effect next here _ ih =>
    rcases List.mem_append.mp member with heard | later
    · cases effect with
      | progress read total =>
        exact exists_of_progress_error (List.mem_singleton.mp heard).symm
      | _ => cases heard
    · have same := sameTerms_answer unlogged here
      have found := ih _ (same.logFile.trans unlogged) later
      rwa [same.failAt] at found

end Wishing

/-! ### A wish in surroundings -/

namespace Surroundings

section Looking

variable {α β : Type} {surroundings : Surroundings} {scene now : Scene} {call : Nat}

/-- Every look of a program hears of a wish to stop exactly once the follower has been called some
number of times. -/
def StopsFrom {α : Type} (surroundings : Surroundings) (call : Nat) : Program α → Scene → Prop
  | .done _, _ => True
  | .ask effect next, scene =>
    let answered := surroundings.answer scene effect
    (effect = .isCancelled → (surroundings.stop scene.looks = true ↔ call ≤ scene.calls.length))
      ∧ surroundings.StopsFrom call (next answered.1) answered.2

theorem stopsFrom_bind (program : Program α) {next : α → Program β}
    (stops : surroundings.StopsFrom call (program >>= next) scene) :
    surroundings.StopsFrom call program scene
      ∧ surroundings.StopsFrom call (next (surroundings.run program scene).1)
          (surroundings.run program scene).2 := by
  induction program generalizing scene with
  | done value => exact ⟨trivial, stops⟩
  | ask effect rest ih =>
    obtain ⟨here, later⟩ := stops
    obtain ⟨first, second⟩ := ih _ later
    exact ⟨⟨here, first⟩, second⟩

/-- The looks of a sequence are those of its first part, -/
theorem stopsFrom_left {action : Action α} {next : α → Action β}
    (stops : surroundings.StopsFrom call (action >>= next).outcome scene) :
    surroundings.StopsFrom call action.outcome scene :=
  (stopsFrom_bind action.outcome stops).1

/-- and then those of the second. -/
theorem stopsFrom_right {action : Action α} {next : α → Action β} {value : α}
    (stops : surroundings.StopsFrom call (action >>= next).outcome scene)
    (ok : surroundings.attempt action scene = (.ok value, now)) :
    surroundings.StopsFrom call (next value).outcome now := by
  have second := (stopsFrom_bind action.outcome stops).2
  rwa [show surroundings.run action.outcome scene = (.ok value, now) from ok] at second

theorem stopsFrom_orElse {action : Action α} {handler : Failure → Action α}
    (stops : surroundings.StopsFrom call (action.orElse handler).outcome scene) :
    surroundings.StopsFrom call action.outcome scene :=
  (stopsFrom_bind action.outcome stops).1

theorem stopsFrom_whatever {action : Action α} {last : Action Unit}
    (stops : surroundings.StopsFrom call (action.whatever last).outcome scene) :
    surroundings.StopsFrom call action.outcome scene :=
  (stopsFrom_bind action.outcome stops).1

end Looking

/-! ### How sequences end -/

section Ending

variable {α β : Type} {surroundings : Surroundings} {scene : Scene} {kind : Failure → Prop}
  {reason : Option Failure}

/-- An action ends with a failure, or with none. -/
def Ends (surroundings : Surroundings) (action : Action α) (scene : Scene)
    (reason : Option Failure) : Prop :=
  match (surroundings.attempt action scene).1 with
  | .ok _ => reason = none
  | .error failure => reason = some failure

theorem ends_none_iff {action : Action α} :
    surroundings.Ends action scene none ↔ (surroundings.attempt action scene).1.isOk = true := by
  unfold Ends
  cases (surroundings.attempt action scene).1 with
  | ok value => exact iff_of_true rfl rfl
  | error failure => exact iff_of_false nofun nofun

theorem ends_some_iff {action : Action α} {failure : Failure} :
    surroundings.Ends action scene (some failure)
      ↔ (surroundings.attempt action scene).1 = .error failure := by
  unfold Ends
  cases (surroundings.attempt action scene).1 with
  | ok value => exact iff_of_false nofun nofun
  | error other =>
    simp only [Option.some_inj, Except.error.injEq]
    exact eq_comm

theorem ends_bind_of_ok {action : Action α} {next : α → Action β} {value : α} {now : Scene}
    (ok : surroundings.attempt action scene = (.ok value, now)) :
    surroundings.Ends (action >>= next) scene reason
      ↔ surroundings.Ends (next value) now reason := by
  unfold Ends
  rw [attempt_bind_of_ok ok]

/-- **A sequence whose first part does not fail so** ends as its second part does. -/
theorem ends_of_bind {action : Action α} {next : α → Action β}
    (first : surroundings.FailsWith kind action) (otherwise : ∀ failure ∈ reason, ¬ kind failure)
    (ends : surroundings.Ends (action >>= next) scene reason) :
    ∃ value now, surroundings.attempt action scene = (.ok value, now)
      ∧ surroundings.Ends (next value) now reason := by
  unfold Ends at ends
  rw [attempt_bind] at ends
  cases attempted : surroundings.attempt action scene with
  | mk result now =>
    rw [attempted] at ends
    cases result with
    | ok value => exact ⟨value, now, rfl, ends⟩
    | error failure => exact absurd (first _ _ _ attempted) (otherwise failure ends)

/-- **A sequence whose second part does not fail so** ends as its first part does. -/
theorem ends_left_of_bind {action : Action α} {next : α → Action β}
    (second : ∀ value, surroundings.FailsWith kind (next value))
    (otherwise : ∀ failure ∈ reason, ¬ kind failure)
    (ends : surroundings.Ends (action >>= next) scene reason) :
    surroundings.Ends action scene reason := by
  unfold Ends at ends ⊢
  rw [attempt_bind] at ends
  cases attempted : surroundings.attempt action scene with
  | mk result now =>
    rw [attempted] at ends
    cases result with
    | error failure => exact ends
    | ok value =>
      simp only at ends ⊢
      split at ends
      · exact ends
      · rename_i failure failed
        exact absurd (second value _ _ _ (Prod.ext failed rfl)) (otherwise failure ends)

/-- A handler that makes of every failure another one, or passes it on, ends as what it stands
behind. -/
theorem ends_of_orElse {action : Action α} {handler : Failure → Action α}
    (handled : ∀ failure now, ∃ other,
      (surroundings.attempt (handler failure) now).1 = .error other
        ∧ (kind other ∨ other = failure))
    (otherwise : ∀ failure ∈ reason, ¬ kind failure)
    (ends : surroundings.Ends (action.orElse handler) scene reason) :
    surroundings.Ends action scene reason := by
  unfold Ends at ends ⊢
  rw [attempt_orElse] at ends
  cases attempted : surroundings.attempt action scene with
  | mk result now =>
    rw [attempted] at ends
    cases result with
    | ok value => exact ends
    | error failure =>
      obtain ⟨other, failed, same⟩ := handled failure now
      simp only [failed] at ends ⊢
      rw [ends, same.resolve_left (otherwise other ends)]

end Ending

end Surroundings

/-! ### A world and its surroundings -/

section Both

variable {surroundings : Surroundings} {scene : Scene} {before world : World} {call : Nat}

/-- A scene that shows a world with a wish to stop hears what the world says. -/
theorem stopsFrom_of_mirrors {α : Type} {program : Program α}
    (plain : program.AllAsked Effect.IsPlain) (untold : before.follower.calls = [])
    (mirrors : Mirrors surroundings before scene world) (wishes : world.WishesFrom call)
    (stops : Tells surroundings.stop scene.looks (world.stops program))
    (follows : Tells surroundings.follow scene.calls.length (world.follows program)) :
    surroundings.StopsFrom call program scene := by
  induction plain generalizing scene world with
  | done value => trivial
  | ask effect next here _ ih =>
    have called : world.follower.calls = scene.calls := by rw [mirrors.calls, untold]; rfl
    obtain ⟨same, later, stopsLater, followsLater⟩ := mirrors_ask here mirrors stops follows
    refine ⟨?_, ?_⟩
    · rintro rfl
      have stop : surroundings.stop scene.looks = world.cancelled := stops 0 (Nat.zero_lt_succ _)
      rw [stop, wishes.now, called]
    · rw [same]
      exact ih _ later (wishesFrom_answer mirrors.unlogged here wishes) stopsLater followsLater

/-- **Surroundings of a world with a wish to stop.** An action comes out in them as in the world,
every look hears what the world says, and the follower fails only as that of the world does. -/
theorem exists_stopping {α : Type} {action : Action α} (plain : action.Only Effect.IsPlain)
    (unlogged : world.logFile = none) (untold : world.follower.calls = [])
    (wishes : world.WishesFrom call) :
    ∃ (surroundings : Surroundings) (scene : Scene), surroundings.script = world.script
      ∧ surroundings.refusals = .ofFaults world.faults
      ∧ (∀ number failure, surroundings.follow number = .error failure →
          ∃ number, world.follower.failAt = some (number, failure))
      ∧ surroundings.StopsFrom call action.outcome (.start world.tree)
      ∧ surroundings.attempt action (.start world.tree) = ((world.attempt action).1, scene)
      ∧ scene.tree = (world.attempt action).2.tree := by
  have mirrors := mirrors_start unlogged action.outcome
  have stops := tells_getElem? (world.stops action.outcome) false
  have follows := tells_getElem? (world.follows action.outcome) (.ok ())
  obtain ⟨same, shown⟩ := mirrors_run plain mirrors stops follows
  refine ⟨world.surroundings action.outcome, _, rfl, rfl, ?_,
    stopsFrom_of_mirrors plain untold mirrors wishes stops follows, Prod.ext same rfl, shown.tree⟩
  intro number failure failed
  have heard : (world.follows action.outcome)[number]? = some (.error failure) := by
    have told : ((world.follows action.outcome)[number]?).getD (.ok ()) = .error failure := failed
    cases there : (world.follows action.outcome)[number]? with
    | none =>
      rw [there] at told
      cases told
    | some reply =>
      rw [there] at told
      exact congrArg some told
  exact exists_of_mem_follows plain unlogged (List.mem_of_getElem? heard)

end Both

end AssetFetch
