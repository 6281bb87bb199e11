/-
**Mishaps with files that are written.**

A world refuses to open or to write a file only for what the files are like. Here both may fail with
any failure, and not only before anything has happened: a file may have been made by the time its
opening fails, and some bytes may have been written.

* `Mishaps`, `Mishaps.meet`: what goes wrong, and an effect that meets it;
* `Mishaps.upon`, `Mishaps.uponAction`: a program and an action to which that happens;
* `uponAction_bind`, `uponAction_orElse`: it happens to a sequence as it does to the parts, and not
  at all to what writes no files (`uponAction_of_only`).
-/

import AssetFetch.Proofs.Program

namespace AssetFetch

/-- What goes wrong with the files that a program writes: a failure to open them, with the file
there by then or not, and a failure to write, with some number of the bytes in the file by then. -/
structure Mishaps where
  opening : Option (Failure × Bool)
  writing : Option (Failure × Nat)

/-- Nothing goes wrong. -/
def Mishaps.none : Mishaps := ⟨.none, .none⟩

/-- Effects that write no files. -/
def Effect.WritesNothing : Effect → Prop
  | .file (.overwrite _) => False
  | .file (.append _ _) => False
  | _ => True

namespace Mishaps

variable {α β : Type} (mishaps : Mishaps)

/-- A failure in the place of a success. -/
def failing (failure : Failure) (reply : Except Failure Unit) : Except Failure Unit :=
  reply >>= fun _ => .error failure

/-- A program that asks for an effect where things go wrong. -/
def meet : (effect : Effect) → (effect.Reply → Program α) → Program α
  | .file (.overwrite path), next =>
    match mishaps.opening with
    | .none => .ask (.file (.overwrite path)) next
    | some (failure, false) => next (.error failure)
    | some (failure, true) =>
      .ask (.file (.overwrite path)) fun reply => next (failing failure reply)
  | .file (.append path bytes), next =>
    match mishaps.writing with
    | .none => .ask (.file (.append path bytes)) next
    | some (failure, written) =>
      .ask (.file (.append path (bytes.take written))) fun reply => next (failing failure reply)
  | effect, next => .ask effect next

/-- A program to which this happens. -/
def upon : Program α → Program α
  | .done value => .done value
  | .ask effect next => mishaps.meet effect fun reply => upon (next reply)

/-- An action to which this happens. -/
def uponAction (action : Action α) : Action α :=
  .attempt (mishaps.upon action.outcome)

theorem meet_of_writesNothing {effect : Effect} (harmless : effect.WritesNothing)
    (next : effect.Reply → Program α) : mishaps.meet effect next = .ask effect next := by
  cases effect with
  | file action =>
    cases action with
    | overwrite path | append path bytes => exact harmless.elim
    | _ => rfl
  | _ => rfl

theorem meet_bind (effect : Effect) (first : effect.Reply → Program α) (next : α → Program β) :
    mishaps.meet effect first >>= next = mishaps.meet effect fun reply => first reply >>= next := by
  cases effect with
  | file action =>
    cases action with
    | overwrite path =>
      simp only [meet]
      rcases mishaps.opening with _ | ⟨failure, _ | _⟩ <;> rfl
    | append path bytes =>
      simp only [meet]
      rcases mishaps.writing with _ | ⟨failure, written⟩ <;> rfl
    | _ => rfl
  | _ => rfl

/-- Where nothing goes wrong a program is as it is. -/
theorem upon_none (program : Program α) : Mishaps.none.upon program = program := by
  have met : ∀ (effect : Effect) (next : effect.Reply → Program α),
      Mishaps.none.meet effect next = .ask effect next := by
    intro effect next
    cases effect with
    | file action => cases action <;> rfl
    | _ => rfl
  induction program with
  | done value => rfl
  | ask effect next ih => exact (met effect _).trans (congrArg (Program.ask effect) (funext ih))

/-! ### Sequences -/

/-- **To a sequence happens what happens to its parts.** -/
theorem upon_bind (program : Program α) (next : α → Program β) :
    mishaps.upon (program >>= next)
      = mishaps.upon program >>= fun value => mishaps.upon (next value) := by
  induction program with
  | done value => rfl
  | ask effect rest ih =>
    refine Eq.trans ?_ (mishaps.meet_bind effect _ _).symm
    exact congrArg (mishaps.meet effect) (funext ih)

theorem upon_of_allAsked {program : Program α}
    (asked : program.AllAsked Effect.WritesNothing) : mishaps.upon program = program := by
  induction asked with
  | done value => rfl
  | ask effect next here _ ih =>
    refine (mishaps.meet_of_writesNothing here _).trans ?_
    exact congrArg (Program.ask effect) (funext ih)

theorem uponAction_bind (action : Action α) (next : α → Action β) :
    mishaps.uponAction (action >>= next)
      = mishaps.uponAction action >>= fun value => mishaps.uponAction (next value) := by
  apply ExceptT.ext
  refine (mishaps.upon_bind action.outcome _).trans ?_
  refine congrArg (mishaps.upon action.outcome >>= ·) (funext fun result => ?_)
  cases result <;> rfl

theorem uponAction_orElse (action : Action α) (handler : Failure → Action α) :
    mishaps.uponAction (action.orElse handler)
      = (mishaps.uponAction action).orElse fun failure => mishaps.uponAction (handler failure) := by
  apply ExceptT.ext
  refine (mishaps.upon_bind action.outcome _).trans ?_
  refine congrArg (mishaps.upon action.outcome >>= ·) (funext fun result => ?_)
  cases result <;> rfl

/-! ### Files that are opened and written -/

/-- A file is not opened, or opened in vain. -/
theorem uponAction_overwrite (path : Path) :
    mishaps.uponAction (Files.overwrite path)
      = match mishaps.opening with
        | .none => Files.overwrite path
        | some (failure, false) => throw failure
        | some (failure, true) => (do Files.overwrite path; throw failure) := by
  have met : mishaps.uponAction (Files.overwrite path)
      = .attempt (mishaps.meet (.file (.overwrite path)) .done) := rfl
  rw [met]
  simp only [meet]
  rcases mishaps.opening with _ | ⟨failure, _ | _⟩
  · rfl
  · rfl
  · refine congrArg (Program.ask (.file (.overwrite path))) (funext fun reply => ?_)
    cases reply <;> rfl

/-- Some bytes are written, and then no more. -/
theorem uponAction_append (path : Path) (bytes : Bytes) :
    mishaps.uponAction (Files.append path bytes)
      = match mishaps.writing with
        | .none => Files.append path bytes
        | some (failure, written) =>
          (do Files.append path (bytes.take written); throw failure) := by
  have met : mishaps.uponAction (Files.append path bytes)
      = .attempt (mishaps.meet (.file (.append path bytes)) .done) := rfl
  rw [met]
  simp only [meet]
  rcases mishaps.writing with _ | ⟨failure, written⟩
  · rfl
  · refine congrArg (Program.ask (.file (.append path _))) (funext fun reply => ?_)
    cases reply <;> rfl

/-- To what writes no files nothing happens. -/
theorem uponAction_of_only {action : Action α} (only : action.Only Effect.WritesNothing) :
    mishaps.uponAction action = action :=
  mishaps.upon_of_allAsked only

end Mishaps

end AssetFetch
