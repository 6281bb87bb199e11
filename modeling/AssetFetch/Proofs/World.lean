/-
**A scripted world is one of the surroundings.**

* `World.stops`, `World.follows`: what a program hears in a world of the wish to stop and from the
  follower;
* `World.surroundings`: the surroundings that say the same, one reply after the other;
* `Mirrors`, `mirrors_answer`, `mirrors_ask`: a scene that shows what a world is like, and one step
  in both;
* `mirrors_run`, `exists_surroundings`: a program without a keyring and without a file for the log
  runs in both alike.
-/

import AssetFetch.Proofs.Runs
import AssetFetch.Proofs.Surroundings

namespace AssetFetch

/-! ### The surroundings of a world -/

/-- The refusals that the faults of a world amount to. -/
def Refusals.ofFaults (faults : FileFaults) : Refusals :=
  { Refusals.none with
    sync := faults.sync
    setMode := faults.setMode
    rename := faults.rename
    remove := faults.remove }

namespace World

/-- What an effect hears of a wish to stop. -/
def stopHeard (world : World) : Effect → List Bool
  | .isCancelled => [world.cancelled]
  | _ => []

/-- What an effect hears from the follower. -/
def followHeard (world : World) : Effect → List (Except Failure Unit)
  | .progress read total => [(world.progress read total).1]
  | _ => []

/-- What a program hears of a wish to stop. -/
def stops {α : Type} : Program α → World → List Bool
  | .done _, _ => []
  | .ask effect next, world =>
    let reply := world.answer effect
    world.stopHeard effect ++ stops (next reply.1) reply.2

/-- What a program hears from the follower. -/
def follows {α : Type} : Program α → World → List (Except Failure Unit)
  | .done _, _ => []
  | .ask effect next, world =>
    let reply := world.answer effect
    world.followHeard effect ++ follows (next reply.1) reply.2

/-- The surroundings that say to a program what a world says. -/
def surroundings {α : Type} (world : World) (program : Program α) : Surroundings where
  name := world.name
  script := world.script
  stop index := ((world.stops program)[index]?).getD false
  follow index := ((world.follows program)[index]?).getD (.ok ())
  refusals := .ofFaults world.faults

end World

/-! ### One step in both -/

section Mirrored

variable {surroundings : Surroundings} {scene : Scene} {before world : World}

/-- A scene shows what a world is like: the files, what is left of the script, and what has been
told since another world. -/
structure Mirrors (surroundings : Surroundings) (before : World) (scene : Scene) (world : World) :
    Prop where
  tree : scene.tree = world.tree
  unlogged : world.logFile = none
  name : surroundings.name = world.name
  script : surroundings.script.drop scene.sent = world.script
  refusals : surroundings.refusals = .ofFaults world.faults
  calls : world.follower.calls = before.follower.calls ++ scene.calls
  reports : world.display.reports = before.display.reports ++ scene.reports

theorem mirrors_start {world : World} (unlogged : world.logFile = none) {α : Type}
    (program : Program α) :
    Mirrors (world.surroundings program) world (.start world.tree) world where
  tree := rfl
  unlogged := unlogged
  name := rfl
  script := rfl
  refusals := rfl
  calls := (List.append_nil _).symm
  reports := (List.append_nil _).symm

theorem World.withoutLogAt_of_unlogged (unlogged : world.logFile = none) (path : Path) :
    world.withoutLogAt path = world := by
  simp [withoutLogAt, unlogged]

theorem World.changing_eq (world : World) (paths : List Path)
    (result : Except FileFault FileTree) :
    world.changing paths result
      = (((World.ofFiles world.tree).changing paths result).1,
        world.withTree ((World.ofFiles world.tree).changing paths result).2.tree) := by
  cases result <;> rfl

theorem World.withMode_eq (world : World) (path : Path) (mode : Given Int)
    (result : Int → Except FileFault FileTree) :
    world.withMode path mode result
      = (((World.ofFiles world.tree).withMode path mode result).1,
        world.withTree ((World.ofFiles world.tree).withMode path mode result).2.tree) := by
  unfold withMode
  split
  · rfl
  · rfl
  · exact changing_eq ..
  · rfl
  · split
    · rfl
    · exact changing_eq ..

/-- **A world does to files what one with its files alone would do**, unless a fault is to happen.
-/
theorem World.onFile_eq (unlogged : world.logFile = none) (writes : Nat) (action : FileAction) :
    world.onFile action
      = match (Refusals.ofFaults world.faults).of writes action with
        | some failure => (.error failure, world)
        | none => (((World.ofFiles world.tree).onFile action).1,
          world.withTree ((World.ofFiles world.tree).onFile action).2.tree) := by
  cases action with
  | create path mode => exact withMode_eq ..
  | overwrite path | append path bytes | makeDirectory path => exact changing_eq ..
  | flush path | close path => rfl
  | sync path =>
    simp only [onFile, Refusals.of, Refusals.ofFaults]
    cases world.faults.sync <;> rfl
  | setMode path mode =>
    simp only [onFile, Refusals.of, Refusals.ofFaults]
    cases world.faults.setMode with
    | some failure => rfl
    | none => exact withMode_eq ..
  | rename source target =>
    simp only [onFile, Refusals.of, Refusals.ofFaults, withoutLogAt_of_unlogged unlogged]
    cases world.faults.rename with
    | some failure => rfl
    | none =>
      simp only [ofFiles, empty, FileFaults.none]
      cases world.tree.rename source target <;> rfl
  | remove path =>
    simp only [onFile, Refusals.of, Refusals.ofFaults, withoutLogAt_of_unlogged unlogged]
    cases world.faults.remove with
    | some failure => rfl
    | none =>
      simp only [ofFiles, empty, FileFaults.none]
      cases world.tree.remove path <;> rfl
  | isDirectory path =>
    simp only [onFile, ofFiles]
    cases world.tree.status path <;> rfl
  | read path => rfl

/-- What happens to files in a world happens in a scene that shows it. -/
theorem mirrors_onFile (mirrors : Mirrors surroundings before scene world) (action : FileAction) :
    (surroundings.answer scene (.file action)).1 = (world.onFile action).1
      ∧ Mirrors surroundings before (surroundings.answer scene (.file action)).2
          (world.onFile action).2 := by
  have same : surroundings.onFile scene action
      = ((world.onFile action).1, (world.onFile action).2.tree) := by
    rw [World.onFile_eq mirrors.unlogged scene.writes action, Surroundings.onFile, mirrors.refusals,
      mirrors.tree]
    cases (Refusals.ofFaults world.faults).of scene.writes action <;> rfl
  refine ⟨congrArg Prod.fst same, ?_⟩
  obtain ⟨tree, others⟩ := World.exists_of_onFile_of_unlogged mirrors.unlogged action
  rw [others]
  exact { mirrors with tree := (congrArg Prod.snd same).trans (congrArg World.tree others) }

/-- A request meets what is next in the script, in both. -/
theorem mirrors_send (mirrors : Mirrors surroundings before scene world) (request : Request) :
    (surroundings.answer scene (.send request)).1 = (world.onSend request).1
      ∧ Mirrors surroundings before (surroundings.answer scene (.send request)).2
          (world.onSend request).2 := by
  have first : surroundings.script[scene.sent]? = world.script.head? := by
    rw [← mirrors.script, List.head?_drop]
  have rest : surroundings.script.drop (scene.sent + 1) = world.script.tail := by
    rw [← mirrors.script, List.tail_drop]
  simp only [Surroundings.answer, first, World.onSend]
  cases script : world.script with
  | nil => exact ⟨rfl, { mirrors with script := by rw [rest, script]; rfl }⟩
  | cons reply others =>
    rw [script] at rest
    cases reply with
    | error failure => exact ⟨rfl, { mirrors with script := rest }⟩
    | ok response => exact ⟨rfl, { mirrors with script := rest }⟩

/-- A line for the log leaves no trace among the files where there is no file for it. -/
theorem mirrors_log (mirrors : Mirrors surroundings before scene world) (record : LogLine) :
    Mirrors surroundings before scene (world.log record) := by
  obtain ⟨_, same⟩ := World.exists_of_log_of_unlogged mirrors.unlogged record
  rw [same]
  exact { mirrors with }

theorem mirrors_report (mirrors : Mirrors surroundings before scene world) (percent delta : Int) :
    Mirrors surroundings before { scene with reports := scene.reports ++ [⟨percent, delta⟩] }
      (world.report percent delta) := by
  have reports : world.display.reports ++ [⟨percent, delta⟩]
      = before.display.reports ++ (scene.reports ++ [⟨percent, delta⟩]) := by
    rw [mirrors.reports, List.append_assoc]
  obtain ⟨_, _, same⟩ := world.exists_of_report percent delta
  rw [same]
  exact { mirrors with reports }

theorem mirrors_progress (mirrors : Mirrors surroundings before scene world) (read total : Nat) :
    Mirrors surroundings before { scene with calls := scene.calls ++ [(read, total)] }
      (world.progress read total).2 := by
  have calls : world.follower.calls ++ [(read, total)]
      = before.follower.calls ++ (scene.calls ++ [(read, total)]) := by
    rw [mirrors.calls, List.append_assoc]
  rw [world.progress_snd]
  exact { mirrors with calls }

/-- **One step in both**: a scene goes on showing a world if it says the same of the wish to stop
and of the follower. -/
theorem mirrors_answer (mirrors : Mirrors surroundings before scene world) {effect : Effect}
    (plain : effect.IsPlain)
    (stop : effect = .isCancelled → surroundings.stop scene.looks = world.cancelled)
    (follow : ∀ read total, effect = .progress read total →
      surroundings.follow scene.calls.length = (world.progress read total).1) :
    (surroundings.answer scene effect).1 = (world.answer effect).1
      ∧ Mirrors surroundings before (surroundings.answer scene effect).2
          (world.answer effect).2 := by
  cases effect with
  | file action => exact mirrors_onFile mirrors action
  | keyring action => exact plain.elim
  | openLog path level => exact plain.elim
  | send request => exact mirrors_send mirrors request
  | close => exact ⟨rfl, { mirrors with }⟩
  | log record => exact ⟨rfl, mirrors_log mirrors record⟩
  | setUpLog level console => exact plain.elim
  | print text => exact plain.elim
  | tell text => exact ⟨rfl, { mirrors with }⟩
  | randomName => exact ⟨mirrors.name, mirrors⟩
  | isCancelled => exact ⟨stop rfl, { mirrors with }⟩
  | announce title => exact ⟨rfl, { mirrors with }⟩
  | report percent delta => exact ⟨rfl, mirrors_report mirrors percent delta⟩
  | progress read total => exact ⟨follow read total rfl, mirrors_progress mirrors read total⟩

/-! ### A run in both -/

/-- What is said from a number on is a list. -/
def Tells {α : Type} (said : Nat → α) (first : Nat) (heard : List α) : Prop :=
  ∀ index (inside : index < heard.length), said (first + index) = heard[index]

theorem Tells.right {α : Type} {said : Nat → α} {first : Nat} {front rest : List α}
    (tells : Tells said first (front ++ rest)) : Tells said (first + front.length) rest := by
  intro index inside
  have there := tells (front.length + index) (by simpa using inside)
  rw [List.getElem_append_right (by omega)] at there
  simpa [Nat.add_assoc] using there

theorem looks_answer (surroundings : Surroundings) (scene : Scene) (world : World)
    (effect : Effect) :
    (surroundings.answer scene effect).2.looks
      = scene.looks + (world.stopHeard effect).length := by
  cases effect <;> rfl

theorem calls_answer (surroundings : Surroundings) (scene : Scene) (world : World)
    (effect : Effect) :
    (surroundings.answer scene effect).2.calls.length
      = scene.calls.length + (world.followHeard effect).length := by
  cases effect with
  | progress read total => simp [Surroundings.answer, World.followHeard]
  | _ => rfl

/-- **One step of a program in both**: what is still to be told falls away from the left as the
numbers of looks and calls grow with the scene. -/
theorem mirrors_ask {α : Type} {effect : Effect} {next : effect.Reply → Program α}
    (plain : effect.IsPlain) (mirrors : Mirrors surroundings before scene world)
    (stops : Tells surroundings.stop scene.looks (world.stops (.ask effect next)))
    (follows : Tells surroundings.follow scene.calls.length (world.follows (.ask effect next))) :
    (surroundings.answer scene effect).1 = (world.answer effect).1
      ∧ Mirrors surroundings before (surroundings.answer scene effect).2 (world.answer effect).2
      ∧ Tells surroundings.stop (surroundings.answer scene effect).2.looks
          ((world.answer effect).2.stops (next (world.answer effect).1))
      ∧ Tells surroundings.follow (surroundings.answer scene effect).2.calls.length
          ((world.answer effect).2.follows (next (world.answer effect).1)) := by
  have stop : effect = .isCancelled → surroundings.stop scene.looks = world.cancelled := by
    rintro rfl
    exact stops 0 (Nat.zero_lt_succ _)
  have follow : ∀ read total, effect = .progress read total →
      surroundings.follow scene.calls.length = (world.progress read total).1 := by
    rintro read total rfl
    exact follows 0 (Nat.zero_lt_succ _)
  obtain ⟨same, later⟩ := mirrors_answer mirrors plain stop follow
  rw [looks_answer surroundings scene world, calls_answer surroundings scene world]
  exact ⟨same, later, stops.right, follows.right⟩

/-- **A run in both**: a scene that says what the world says goes on showing it to the end. -/
theorem mirrors_run {α : Type} {program : Program α} (plain : program.AllAsked Effect.IsPlain)
    (mirrors : Mirrors surroundings before scene world)
    (stops : Tells surroundings.stop scene.looks (world.stops program))
    (follows : Tells surroundings.follow scene.calls.length (world.follows program)) :
    (surroundings.run program scene).1 = (world.run program).1
      ∧ Mirrors surroundings before (surroundings.run program scene).2 (world.run program).2 := by
  induction plain generalizing scene world with
  | done value => exact ⟨rfl, mirrors⟩
  | ask effect next here _ ih =>
    obtain ⟨same, later, stopsLater, followsLater⟩ := mirrors_ask here mirrors stops follows
    simp only [Surroundings.run, World.run, same]
    exact ih _ later stopsLater followsLater

theorem tells_getElem? {α : Type} (heard : List α) (otherwise : α) :
    Tells (fun index => (heard[index]?).getD otherwise) 0 heard := by
  intro index inside
  simp [inside]

/-- **An action comes out in a world as in surroundings of it**: with the same outcome, and in the
end the scene shows the world. -/
theorem exists_surroundings {α : Type} {action : Action α} (plain : action.Only Effect.IsPlain)
    (unlogged : world.logFile = none) :
    ∃ surroundings scene, surroundings.name = world.name ∧ surroundings.script = world.script
      ∧ surroundings.refusals = .ofFaults world.faults
      ∧ surroundings.attempt action (.start world.tree) = ((world.attempt action).1, scene)
      ∧ Mirrors surroundings world scene (world.attempt action).2 := by
  obtain ⟨same, mirrors⟩ := mirrors_run plain (mirrors_start unlogged action.outcome)
    (tells_getElem? _ _) (tells_getElem? _ _)
  exact ⟨world.surroundings action.outcome, _, rfl, rfl, rfl, Prod.ext same rfl, mirrors⟩

end Mirrored

end AssetFetch
