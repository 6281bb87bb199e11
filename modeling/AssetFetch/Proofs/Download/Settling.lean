/-
**A download renames at most once, and that decides it.**

* `Program.Always`: on every path a program asks for effects of a kind and ends with a value of a
  kind;
* `Program.Settling`: a program touches no file but its own until it renames that file to the
  destination; if the rename is done it touches nothing more and ends one way, and without a rename
  it ends another way. Closed under sequence;
* `settling_download`: a download is such a program: it succeeds exactly when the rename is done.
-/

import AssetFetch.Proofs.Download.Whole

namespace AssetFetch

namespace Program

variable {α β : Type} {kind : Effect → Prop} {name : String} {file destination : Path}

/-! ### Programs that always end well -/

section Always

variable {good : α → Prop} {better : β → Prop}

/-- On every path the program asks only for effects of a kind, and ends with a value of a kind. -/
inductive Always (kind : Effect → Prop) {α : Type} (good : α → Prop) : Program α → Prop
  | done (value : α) : good value → Always kind good (.done value)
  | ask (effect : Effect) (next : effect.Reply → Program α) :
      kind effect → (∀ reply, Always kind good (next reply)) → Always kind good (.ask effect next)

theorem AllAsked.always {program : Program α} (asked : program.AllAsked kind) :
    program.Always kind fun _ => True := by
  induction asked with
  | done value => exact .done value trivial
  | ask effect next here _ ih => exact .ask effect next here ih

theorem Always.bind {program : Program α} {next : α → Program β} (first : program.Always kind good)
    (rest : ∀ value, good value → (next value).Always kind better) :
    (program >>= next).Always kind better := by
  induction first with
  | done value holds => exact rest value holds
  | ask effect _ here _ ih => exact .ask effect _ here ih

/-- A run of quiet effects ends well and leaves the files alone. -/
theorem Always.run {program : Program α} (always : program.Always Effect.IsQuiet good)
    (surroundings : Surroundings) (scene : Scene) :
    good (surroundings.run program scene).1
      ∧ (surroundings.run program scene).2.tree = scene.tree := by
  induction always generalizing scene with
  | done value holds => exact ⟨holds, rfl⟩
  | ask effect next quiet _ ih =>
    obtain ⟨holds, same⟩ := ih _ (surroundings.answer scene effect).2
    exact ⟨holds, same.trans (tree_answer_of_quiet quiet)⟩

end Always

/-! ### Programs that settle -/

section Settling

variable {before after : α → Prop} {earlier later : β → Prop}

/-- The program touches no file but its own until it renames that to the destination. When the
rename is done it touches nothing more and ends with a value of one kind; without it, it ends with a
value of another kind. -/
inductive Settling (name : String) (file destination : Path) {α : Type} (before after : α → Prop) :
    Program α → Prop
  | done (value : α) : before value → Settling name file destination before after (.done value)
  | named (next : String → Program α) :
      Settling name file destination before after (next name) →
      Settling name file destination before after (.ask .randomName next)
  | ask (effect : Effect) (next : effect.Reply → Program α) :
      effect.Owns file → (∀ reply, Settling name file destination before after (next reply)) →
      Settling name file destination before after (.ask effect next)
  | rename (next : Except Failure Unit → Program α) :
      (next (.ok ())).Always Effect.IsQuiet after →
      (∀ failure, Settling name file destination before after (next (.error failure))) →
      Settling name file destination before after (.ask (.file (.rename file destination)) next)

theorem Always.settling {program : Program α} (always : program.Always (Effect.Owns file) before) :
    program.Settling name file destination before after := by
  induction always with
  | done value holds => exact .done value holds
  | ask effect next owns _ ih => exact .ask effect next owns ih

/-- **A sequence settles as its parts do.** -/
theorem Settling.bind {program : Program α} {next : α → Program β}
    (first : program.Settling name file destination before after)
    (rest : ∀ value, before value → (next value).Settling name file destination earlier later)
    (last : ∀ value, after value → (next value).Always Effect.IsQuiet later) :
    (program >>= next).Settling name file destination earlier later := by
  induction first with
  | done value holds => exact rest value holds
  | named _ _ ih => exact .named _ ih
  | ask effect _ owns _ ih => exact .ask effect _ owns ih
  | rename _ quiet _ ih => exact .rename _ (quiet.bind last) ih

end Settling

end Program

/-! ### Downloads -/

namespace Download

open Program

section Downloads

variable {surroundings : Surroundings} {job : Download} {downloader : Downloader} {watch : Watch}
  {name : String} {file destination : Path}

/-- An outcome that is a failure. -/
def Fails {α : Type} (outcome : Except Failure α) : Prop :=
  outcome.isOk = false

theorem always_throw {α : Type} {kind : Effect → Prop} (failure : Failure) :
    (throw failure : Action α).outcome.Always kind Fails :=
  .done _ rfl

/-- What ends with a failure if it ends at all well fails in any case. -/
theorem always_bind_throw {α β : Type} {kind : Effect → Prop} {action : Action β}
    (only : action.Only kind) (failure : β → Failure) :
    (do let value ← action; throw (failure value) : Action α).outcome.Always kind Fails :=
  (AllAsked.always only).bind fun result _ =>
    match result with
    | .ok value => always_throw (failure value)
    | .error other => always_throw other

theorem settling_rename :
    (Files.rename file destination).outcome.Settling name file destination Fails (· = .ok ()) :=
  .rename _ (.done _ rfl) fun _ => .done _ rfl

theorem settling_settle :
    (settle job file destination).outcome.Settling name file destination Fails (· = .ok ()) := by
  refine settling_rename.bind (fun result fails => ?_) fun result done => ?_
  · cases result with
    | ok value => cases fails
    | error failure =>
      refine Always.settling ?_
      show Action.outcome (if failure.isSystem then _ else _) |>.Always _ _
      split
      · exact always_bind_throw ((only_log ..).mono fun _ mute => (mute.fills file).owns) fun _ => _
      · exact always_throw failure
  · subst done
    exact .done _ rfl

theorem settling_deliver :
    (deliver job downloader watch file destination).outcome.Settling name file destination Fails
      (· = .ok ()) := by
  have fetched : (fetch job downloader watch file).outcome.Settling name file destination
      (fun _ => True) (fun _ => False) := (AllAsked.always (only_fetch ..)).settling
  refine fetched.bind (fun result _ => ?_) fun _ never => never.elim
  cases result with
  | ok value => exact settling_settle
  | error failure => exact .done _ rfl

theorem settling_deliverOrClear :
    (deliverOrClear job downloader watch file destination).outcome.Settling name file destination
      Fails (· = .ok ()) := by
  refine settling_deliver.bind (fun result fails => ?_) fun result done => ?_
  · cases result with
    | ok value => cases fails
    | error failure =>
      have clears := (only_clear file).mono fun _ => Effect.Fills.owns
      exact (always_bind_throw clears fun _ => failure).settling
  · subst done
    exact .done _ rfl

/-- **A download succeeds exactly when its rename is done**, and touches no file but its own before
and nothing after it. -/
theorem settling_download (path : job.destination.path = .ok destination)
    (fresh : temporaryPath destination name = .ok file) :
    (download downloader job watch).outcome.Settling name file destination Fails
      (· = .ok destination) := by
  have rest : (do
      let file ← .ofExcept (temporaryPath destination name)
      deliverOrClear job downloader watch file destination
      log .info logger ("Downloaded " ++ job.url.shown ++ " to " ++ destination.text)
      return destination : Action Path).outcome.Settling name file destination Fails
        (· = .ok destination) := by
    rw [fresh]
    refine settling_deliverOrClear.bind (fun result fails => ?_) fun result done => ?_
    · cases result with
      | ok value => cases fails
      | error failure => exact .done _ rfl
    · subst done
      exact .ask _ _ trivial fun _ => .done _ rfl
  rw [download_eq, path]
  exact .named _ rest

end Downloads

end Download

end AssetFetch
