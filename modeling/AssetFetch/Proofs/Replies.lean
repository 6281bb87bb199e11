/-
**What the service replies and what is printed.**

* `World.Beyond`: what the service still has to say, what it has been asked, the random part of
  names, and what has been printed; `beyond_answer`: whatever sends nothing and prints nothing
  leaves that;
* `World.Onward`, `onward_run`: **every request takes one reply**, whatever else is done;
* `World.output_run`: a program that prints nothing leaves what has been printed;
* `World.LastReply`: the reply to the last request that was sent.
-/

import AssetFetch.Proofs.Local

namespace AssetFetch

/-- Effects that print nothing. -/
def Effect.IsUnprinted (effect : Effect) : Prop :=
  ∀ text, effect ≠ .print text

theorem Effect.IsPlain.unprinted {effect : Effect} (plain : effect.IsPlain) :
    effect.IsUnprinted := by
  rintro text rfl
  exact plain.elim

theorem Effect.IsLocal.unprinted {effect : Effect} (isLocal : effect.IsLocal) :
    effect.IsUnprinted := by
  rintro text rfl
  exact isLocal.elim

namespace World

variable {world later : World}

/-! ### What is left alone -/

/-- What the service still has to say, what it has been asked, the random part of names, and what
has been printed. -/
structure Beyond where
  script : List (Except Failure Response)
  requests : List Request
  name : String
  output : String

/-- What a world has of that. -/
def beyond (world : World) : Beyond :=
  ⟨world.script, world.requests, world.name, world.output⟩

section Left

variable (world)

theorem beyond_log (record : LogLine) : (world.log record).beyond = world.beyond := by
  obtain ⟨_, _, same, _⟩ := world.exists_of_log record
  rw [same]
  rfl

variable {world}

/-- **Whatever sends nothing and prints nothing leaves that alone.** -/
theorem beyond_answer {effect : Effect} (unsent : effect.IsUnsent)
    (unprinted : effect.IsUnprinted) : (world.answer effect).2.beyond = world.beyond := by
  cases effect with
  | file action =>
    obtain ⟨_, _, same, _⟩ := world.exists_of_onFile action
    exact (congrArg beyond same :)
  | keyring action =>
    obtain ⟨_, same⟩ := world.exists_of_onKeyring action
    exact (congrArg beyond same :)
  | send request => exact absurd rfl (unsent request)
  | print text => exact absurd rfl (unprinted text)
  | log record => exact beyond_log ..
  | openLog path level =>
    obtain ⟨_, _, _, same⟩ := world.exists_of_openLog path level
    exact (congrArg beyond same :)
  | report percent delta =>
    obtain ⟨_, _, same⟩ := world.exists_of_report percent delta
    exact (congrArg beyond same :)
  | progress read total => exact (congrArg beyond (world.progress_snd read total) :)
  | _ => rfl

theorem beyond_run {α : Type} {program : Program α}
    (asked : program.AllAsked fun effect => effect.IsUnsent ∧ effect.IsUnprinted) (world : World) :
    (world.run program).2.beyond = world.beyond :=
  related_run (fun before after => after.beyond = before.beyond) (fun _ => rfl)
    (fun left right => right.trans left) (fun _ _ both => beyond_answer both.1 both.2) asked world

end Left

/-! ### What is printed -/

theorem output_answer {effect : Effect} (unprinted : effect.IsUnprinted) :
    (world.answer effect).2.output = world.output := by
  by_cases sends : ∃ request, effect = .send request
  · obtain ⟨request, rfl⟩ := sends
    obtain ⟨_, _, same⟩ := world.exists_of_onSend request
    exact (congrArg World.output same :)
  · have unsent : effect.IsUnsent := fun request same => sends ⟨request, same⟩
    exact congrArg Beyond.output (beyond_answer unsent unprinted)

/-- **A program that prints nothing leaves what has been printed.** -/
theorem output_run {α : Type} {program : Program α}
    (unprinted : program.AllAsked Effect.IsUnprinted) (world : World) :
    (world.run program).2.output = world.output :=
  related_run (fun before after => after.output = before.output) (fun _ => rfl)
    (fun left right => right.trans left) (fun _ _ => output_answer) unprinted world

/-! ### Requests and replies -/

/-- Some more requests have been sent, each of which has taken a reply. -/
structure Onward (before after : World) : Prop where
  name : after.name = before.name
  sent : ∃ sent, after.requests = before.requests ++ sent
    ∧ after.script = before.script.drop sent.length

namespace Onward

theorem refl (world : World) : world.Onward world :=
  ⟨rfl, [], (List.append_nil _).symm, rfl⟩

theorem trans {first second third : World} (left : first.Onward second)
    (right : second.Onward third) : first.Onward third := by
  obtain ⟨sent, asked, rest⟩ := left.sent
  obtain ⟨more, also, remains⟩ := right.sent
  refine ⟨right.name.trans left.name, sent ++ more, ?_, ?_⟩
  · rw [also, asked, List.append_assoc]
  · rw [remains, rest, List.drop_drop, List.length_append]

theorem of_beyond (same : later.beyond = world.beyond) : world.Onward later := by
  have requests : later.requests = world.requests := congrArg Beyond.requests same
  have script : later.script = world.script := congrArg Beyond.script same
  exact ⟨congrArg Beyond.name same, [], by rw [requests, List.append_nil], script⟩

end Onward

/-- A request takes the next reply. -/
theorem script_onSend (request : Request) :
    (world.onSend request).2.script = world.script.tail := by
  unfold onSend
  split
  · rename_i ended
    rw [ended]
    rfl
  · rename_i more
    rw [more]
    rfl
  · rename_i more
    rw [more]
    rfl

theorem onward_answer (effect : Effect) : world.Onward (world.answer effect).2 := by
  by_cases sends : ∃ request, effect = .send request
  · obtain ⟨request, rfl⟩ := sends
    obtain ⟨_, _, same⟩ := world.exists_of_onSend request
    refine ⟨(congrArg World.name same :), [request], requests_onSend request, ?_⟩
    exact (script_onSend request).trans (List.drop_one).symm
  by_cases prints : ∃ text, effect = .print text
  · obtain ⟨text, rfl⟩ := prints
    show world.Onward (world.print text).2
    unfold print
    split
    · exact .refl world
    · exact ⟨rfl, [], (List.append_nil _).symm, rfl⟩
  · exact .of_beyond (beyond_answer (fun request same => sends ⟨request, same⟩)
      fun text same => prints ⟨text, same⟩)

/-- **Every request takes one reply.** -/
theorem onward_run {α : Type} (program : Program α) (world : World) :
    world.Onward (world.run program).2 := by
  induction program generalizing world with
  | done value => exact .refl world
  | ask effect next ih => exact (onward_answer effect).trans (ih _ _)

/-- The reply to the last request that was sent on the way from one world to another. -/
def LastReply (before after : World) (response : Response) : Prop :=
  ∃ sent, after.requests.length = before.requests.length + (sent + 1)
    ∧ before.script[sent]? = some (.ok response)

/-- One more request gets the next reply. -/
theorem Onward.lastReply {last : World} {response : Response} (onward : world.Onward later)
    (replied : later.script.head? = some (.ok response))
    (sent : last.requests.length = later.requests.length + 1) : world.LastReply last response := by
  obtain ⟨requests, asked, rest⟩ := onward.sent
  refine ⟨requests.length, ?_, ?_⟩
  · rw [sent, asked, List.length_append, Nat.add_assoc]
  · rwa [rest, List.head?_drop] at replied

/-- Requests that have been sent before do not matter. -/
theorem LastReply.of_onward {last : World} {response : Response}
    (replied : later.LastReply last response) (onward : world.Onward later) :
    world.LastReply last response := by
  obtain ⟨requests, asked, rest⟩ := onward.sent
  obtain ⟨sent, more, there⟩ := replied
  refine ⟨requests.length + sent, ?_, ?_⟩
  · rw [more, asked, List.length_append, Nat.add_assoc, Nat.add_assoc]
  · rwa [rest, List.getElem?_drop] at there

end World

end AssetFetch
