/-
**What whoever follows a download is told, however the download ends.**

* `Effect.IsSilent`, `heard_of_silent`: effects that tell nothing, and runs of them;
* `ToldPieces`, `told_writePieces`: one count for each of the first pieces with bytes;
* `Tells`, `telling_fetch`: the counts of a download, all of them if it succeeds;
* `telling_download`: **what a whole download tells.**
-/

import AssetFetch.Proofs.Download.Delivery
import AssetFetch.Proofs.Progress

namespace AssetFetch

/-! ### Silence -/

section Silence

variable {α β : Type} {surroundings : Surroundings} {scene later : Scene}

/-- Effects that tell whoever follows a download nothing. -/
def Effect.IsSilent : Effect → Prop
  | report _ _ => False
  | progress _ _ => False
  | _ => True

/-- Everything that whoever follows has been told. -/
def Scene.heard (scene : Scene) : List (Nat × Nat) × List PercentTracker.Report :=
  (scene.calls, scene.reports)

theorem heard_of_silent {program : Program α} (silent : program.AllAsked Effect.IsSilent)
    (scene : Scene) : (surroundings.run program scene).2.heard = scene.heard := by
  induction silent generalizing scene with
  | done value => rfl
  | ask effect next here _ ih =>
    refine (ih _ _).trans ?_
    cases effect with
    | report percent delta => exact here.elim
    | progress read total => exact here.elim
    | _ => rfl

theorem heard_attempt_of_silent (surroundings : Surroundings) {action : Action α}
    (silent : action.Only Effect.IsSilent) (scene : Scene) :
    (surroundings.attempt action scene).2.heard = scene.heard :=
  heard_of_silent silent scene

/-- Silent actions behind another one tell nothing more. -/
theorem heard_bind_of_silent {action : Action α} {next : α → Action β}
    (silent : ∀ value, (next value).Only Effect.IsSilent) :
    (surroundings.attempt (action >>= next) scene).2.heard
      = (surroundings.attempt action scene).2.heard := by
  rw [Surroundings.attempt_bind]
  split
  · rename_i value middle ran
    rw [ran]
    exact heard_attempt_of_silent surroundings (silent value) middle
  · rename_i ran
    rw [ran]

theorem heard_orElse_of_silent {action : Action α} {handler : Failure → Action α}
    (silent : ∀ failure, (handler failure).Only Effect.IsSilent) :
    (surroundings.attempt (action.orElse handler) scene).2.heard
      = (surroundings.attempt action scene).2.heard := by
  rw [Surroundings.attempt_orElse]
  split
  · rename_i ran
    rw [ran]
  · rename_i failure middle ran
    rw [ran]
    exact heard_attempt_of_silent surroundings (silent failure) middle

theorem silent_log (severity : Severity) (logger message : String) :
    (log severity logger message).Only Effect.IsSilent :=
  .ofProgram (.perform trivial)

theorem silent_append (path : Path) (bytes : Bytes) :
    (Files.append path bytes).Only Effect.IsSilent :=
  .attempt (.perform trivial)

/-- What has been told decides what has been told after more counts. -/
theorem heard_told_of_heard {other : Scene} (same : other.heard = scene.heard) (watch : Watch)
    (total : Nat) (tracker : PercentTracker) (counts : List Nat) :
    (other.told watch total tracker counts).heard
      = (scene.told watch total tracker counts).heard := by
  obtain ⟨calls, reports⟩ := Prod.mk.inj same
  simp only [Scene.heard, Scene.told, calls, reports]

/-- What has been told after counts and nothing before. -/
def Watch.heard (watch : Watch) (total : Nat) (counts : List Nat) :
    List (Nat × Nat) × List PercentTracker.Report :=
  (watch.calls total counts, watch.reports total .start counts)

theorem heard_told_of_unheard (unheard : scene.heard = ([], [])) (watch : Watch) (total : Nat)
    (counts : List Nat) :
    (scene.told watch total .start counts).heard = watch.heard total counts := by
  obtain ⟨calls, reports⟩ := Prod.mk.inj unheard
  simp only [Scene.heard, Scene.told, calls, reports, List.nil_append, Watch.heard]

end Silence

namespace Download

/-! ### The parts of a download -/

section Parts

variable {surroundings : Surroundings} {scene later : Scene} {job : Download} {watch : Watch}
  {file : Path} {total : Nat} {standing : Standing}

/-- What is told while pieces are written: one count for each of the first pieces with bytes, and
for all of them if they are all written. -/
structure ToldPieces (watch : Watch) (total : Nat) (arrivals : List (Except Failure Bytes))
    (standing : Standing) (scene : Scene) (outcome : Except Failure Standing) (later : Scene)
    (pieces : List Bytes) : Prop where
  arrived : pieces.map .ok <+: arrivals
  heard : later.heard
    = (scene.told watch total standing.tracker (countsAfter standing.read pieces)).heard
  all : ∀ done, outcome = .ok done →
    arrivals = pieces.map .ok ∧ done.read = standing.read + pieces.flatten.length
      ∧ done.tracker = watch.tracker total standing.tracker (countsAfter standing.read pieces)

/-- Nothing is told where nothing is written. -/
theorem ToldPieces.nothing {arrivals : List (Except Failure Bytes)}
    {outcome : Except Failure Standing} (same : later.heard = scene.heard)
    (fails : ∀ done, outcome ≠ .ok done) :
    ToldPieces watch total arrivals standing scene outcome later [] where
  arrived := List.nil_prefix
  heard := same.trans (congrArg Scene.heard (Scene.told_nil ..)).symm
  all done ok := absurd ok (fails done)

/-- Only what has been told before counts of the scene before. -/
theorem ToldPieces.of_heard {arrivals : List (Except Failure Bytes)} {pieces : List Bytes}
    {outcome : Except Failure Standing} {middle : Scene} (same : middle.heard = scene.heard)
    (told : ToldPieces watch total arrivals standing middle outcome later pieces) :
    ToldPieces watch total arrivals standing scene outcome later pieces :=
  { told with heard := told.heard.trans (heard_told_of_heard same ..) }

/-- A piece without bytes is not told of. -/
theorem ToldPieces.cons_empty {rest : List (Except Failure Bytes)} {pieces : List Bytes}
    {outcome : Except Failure Standing}
    (told : ToldPieces watch total rest standing scene outcome later pieces) :
    ToldPieces watch total (.ok [] :: rest) standing scene outcome later ([] :: pieces) where
  arrived := List.cons_prefix_cons.mpr ⟨rfl, told.arrived⟩
  heard := told.heard
  all done ok := by
    obtain ⟨arrived, read, tracker⟩ := told.all done ok
    exact ⟨congrArg _ arrived, read, tracker⟩

/-- A piece with bytes is told of before the rest. -/
theorem ToldPieces.cons_filled {rest : List (Except Failure Bytes)} {piece : Bytes}
    {pieces : List Bytes} {stream : Option Gzip.Stream} {outcome : Except Failure Standing}
    {middle : Scene} (filled : piece.isEmpty = false)
    (same : middle.heard
      = (scene.told watch total standing.tracker [standing.read + piece.length]).heard)
    (told : ToldPieces watch total rest
      ⟨standing.read + piece.length, stream,
        watch.tracker total standing.tracker [standing.read + piece.length]⟩
      middle outcome later pieces) :
    ToldPieces watch total (.ok piece :: rest) standing scene outcome later (piece :: pieces) where
  arrived := List.cons_prefix_cons.mpr ⟨rfl, told.arrived⟩
  heard := by
    rw [countsAfter_cons_of_filled filled, Scene.told_append, told.heard]
    exact heard_told_of_heard same ..
  all done ok := by
    obtain ⟨arrived, read, tracker⟩ := told.all done ok
    rw [countsAfter_cons_of_filled filled, Watch.tracker_append, List.flatten_cons,
      List.length_append, ← Nat.add_assoc]
    exact ⟨congrArg _ arrived, read, tracker⟩

/-- A piece with bytes that is written is told of in one count. -/
theorem heard_of_writePiece_ok {piece : Bytes} {next : Standing}
    (written : surroundings.attempt (writePiece watch file total standing piece) scene
      = (.ok next, later)) :
    later.heard = (scene.told watch total standing.tracker [standing.read + piece.length]).heard
      ∧ ∃ stream, next = ⟨standing.read + piece.length, stream,
          watch.tracker total standing.tracker [standing.read + piece.length]⟩ := by
  obtain ⟨unpacked, before, split, rest⟩ := Surroundings.attempt_bind_eq_ok_iff.mp written
  obtain rfl : scene = before := congrArg Prod.snd split
  obtain ⟨_, middle, appended, rest⟩ := Surroundings.attempt_bind_eq_ok_iff.mp rest
  obtain ⟨tracker, last, notified, returned⟩ := Surroundings.attempt_bind_eq_ok_iff.mp rest
  cases returned
  have kept := heard_attempt_of_silent surroundings (silent_append file unpacked.1) scene
  rw [appended] at kept
  obtain ⟨_, rfl, rfl⟩ := attempt_notify_eq_ok_iff.mp notified
  exact ⟨heard_told_of_heard kept .., unpacked.2, rfl⟩

/-- One that is not written has been told of as well, if it is the call that has failed. -/
theorem heard_of_writePiece_error {piece : Bytes} {failure : Failure}
    (failed : surroundings.attempt (writePiece watch file total standing piece) scene
      = (.error failure, later)) :
    later.heard = scene.heard
      ∨ later.heard
        = (scene.told watch total standing.tracker [standing.read + piece.length]).heard := by
  rw [writePiece, Surroundings.attempt_bind, Surroundings.attempt_ofExcept] at failed
  cases split : unpack standing.stream piece with
  | error fault =>
    rw [split] at failed
    cases failed
    exact .inl rfl
  | ok unpacked =>
    rw [split] at failed
    dsimp only at failed
    have kept := heard_attempt_of_silent surroundings (silent_append file unpacked.1) scene
    rw [Surroundings.attempt_bind] at failed
    split at failed
    · rename_i middle appended
      rw [appended] at kept
      have told := congrArg Prod.snd (attempt_notify surroundings middle watch
        (standing.read + piece.length) total standing.tracker)
      rw [Surroundings.attempt_bind] at failed
      split at failed
      · cases failed
      · rename_i notified
        cases failed
        rw [notified] at told
        exact .inr ((congrArg Scene.heard told).trans (heard_told_of_heard kept ..))
    · rename_i appended
      cases failed
      rw [appended] at kept
      exact .inl kept

/-- One step: a piece with bytes is written, and the rest goes on. -/
theorem told_writePieces_filled {rest : List (Except Failure Bytes)} {piece : Bytes}
    (filled : piece.isEmpty = false) (standing : Standing) (scene : Scene)
    (further : ∀ standing scene, ∃ pieces, ToldPieces watch total rest standing scene
      (surroundings.attempt (writePieces job watch file total rest standing) scene).1
      (surroundings.attempt (writePieces job watch file total rest standing) scene).2 pieces) :
    let action : Action Standing := do
      let next ← writePiece watch file total standing piece
      writePieces job watch file total rest next
    ∃ pieces, ToldPieces watch total (.ok piece :: rest) standing scene
      (surroundings.attempt action scene).1 (surroundings.attempt action scene).2 pieces := by
  intro action
  unfold action
  cases written : surroundings.attempt (writePiece watch file total standing piece) scene with
  | mk result middle =>
    cases result with
    | ok next =>
      obtain ⟨same, stream, rfl⟩ := heard_of_writePiece_ok written
      obtain ⟨pieces, told⟩ := further _ middle
      rw [Surroundings.attempt_bind_of_ok written]
      exact ⟨piece :: pieces, told.cons_filled filled same⟩
    | error failure =>
      rw [Surroundings.attempt_bind_of_error written]
      rcases heard_of_writePiece_error written with unheard | heard
      · exact ⟨[], .nothing unheard nofun⟩
      · -- the call failed, so this piece is the last one that is told of
        refine ⟨[piece], List.cons_prefix_cons.mpr ⟨rfl, List.nil_prefix⟩, ?_, nofun⟩
        rw [countsAfter_cons_of_filled filled]
        exact heard

/-- **One count for each of the first pieces with bytes**, however the writing ends. -/
theorem told_writePieces (surroundings : Surroundings) (job : Download) (watch : Watch)
    (file : Path) (total : Nat) (arrivals : List (Except Failure Bytes)) (standing : Standing)
    (scene : Scene) :
    ∃ pieces, ToldPieces watch total arrivals standing scene
      (surroundings.attempt (writePieces job watch file total arrivals standing) scene).1
      (surroundings.attempt (writePieces job watch file total arrivals standing) scene).2
      pieces := by
  -- the standing and the scene change with every piece
  induction arrivals generalizing standing scene with
  | nil =>
    refine ⟨[], List.nil_prefix, (congrArg Scene.heard (Scene.told_nil ..)).symm, ?_⟩
    rintro done ⟨⟩
    cases watch <;> exact ⟨rfl, rfl, rfl⟩
  | cons arrival rest ih =>
    cases arrival with
    | error failure => exact ⟨[], .nothing rfl fun done ok => by cases ok⟩
    | ok piece =>
      have looked : Scene.heard { scene with looks := scene.looks + 1 } = scene.heard := rfl
      rw [writePieces_cons, Surroundings.attempt_bind, attempt_isCancelled]
      dsimp only
      cases surroundings.stop scene.looks with
      | true => exact ⟨[], .nothing looked fun done ok => by cases ok⟩
      | false =>
        rw [if_neg Bool.false_ne_true]
        by_cases filled : piece.isEmpty = true
        · obtain rfl : piece = [] := List.isEmpty_iff.mp filled
          obtain ⟨pieces, told⟩ := ih standing { scene with looks := scene.looks + 1 }
          exact ⟨[] :: pieces, (told.of_heard looked).cons_empty⟩
        · replace filled : piece.isEmpty = false := by simpa using filled
          rw [filled, if_neg Bool.false_ne_true]
          obtain ⟨pieces, told⟩ :=
            told_writePieces_filled filled standing { scene with looks := scene.looks + 1 } ih
          exact ⟨pieces, told.of_heard looked⟩

/-- What is told at the end: nothing, or one count more if nothing was announced. -/
theorem heard_conclude (surroundings : Surroundings) (job : Download) (watch : Watch) (file : Path)
    (total : Nat) (standing : Standing) (scene : Scene) :
    ∃ more, (more = [] ∨ more = if total = 0 then [0] else [])
      ∧ (surroundings.attempt (conclude job watch file total standing) scene).2.heard
        = (scene.told watch total standing.tracker more).heard
      ∧ ((surroundings.attempt (conclude job watch file total standing) scene).1.isOk = true →
        total ≤ standing.read ∧ more = if total = 0 then [0] else []) := by
  unfold conclude
  by_cases short : standing.read < total
  · rw [if_pos short]
    exact ⟨[], .inl rfl, (congrArg Scene.heard (Scene.told_nil ..)).symm, fun ok => by cases ok⟩
  · rw [if_neg short]
    have enough : total ≤ standing.read := by omega
    have persisted : (persist file).Only Effect.IsSilent :=
      .bind (.attempt (.perform trivial)) fun _ => .attempt (.perform trivial)
    refine ⟨_, .inr rfl, ?_, fun _ => ⟨enough, rfl⟩⟩
    by_cases nothing : total = 0
    · subst nothing
      simp only [beq_self_eq_true, if_true]
      rw [heard_bind_of_silent fun _ => persisted]
      refine (heard_bind_of_silent fun _ => .pure _).trans ?_
      rw [attempt_notify]
    · simp only [nothing, beq_iff_eq, if_false, Scene.told_nil]
      exact heard_attempt_of_silent surroundings persisted scene

/-- The counts that are told of a body: one for each of its first pieces with bytes, and perhaps one
more if nothing was announced. If it is written to its end they are all told, and no byte is
missing. -/
structure Tells (arrivals : List (Except Failure Bytes)) (total : Nat) (pieces : List Bytes)
    (counts : List Nat) (finished : Bool) : Prop where
  arrived : pieces.map .ok <+: arrivals
  counted : counts = countsAfter 0 pieces ∨ counts = toldCounts pieces total
  whole : finished = true → arrivals = pieces.map .ok ∧ total ≤ pieces.flatten.length
    ∧ counts = toldCounts pieces total

theorem Tells.nothing {arrivals : List (Except Failure Bytes)} :
    Tells arrivals total [] [] false :=
  ⟨List.nil_prefix, .inl rfl, fun done => by cases done⟩

/-- What is told of a body that is written is also told if something else fails later. -/
theorem Tells.weaken {arrivals : List (Except Failure Bytes)} {pieces : List Bytes}
    {counts : List Nat} {finished less : Bool} (tells : Tells arrivals total pieces counts finished)
    (fewer : less = true → finished = true) : Tells arrivals total pieces counts less :=
  { tells with whole := fun done => tells.whole (fewer done) }

end Parts

/-! ### The whole of a download -/

section Whole

variable {α β : Type} {surroundings : Surroundings} {scene later : Scene} {job : Download}
  {downloader : Downloader} {watch : Watch} {file destination : Path} {total : Nat}
  {arrivals : List (Except Failure Bytes)} {action : Action α}

/-- An action tells of a body and of nothing else. -/
def Telling (surroundings : Surroundings) (watch : Watch) (total : Nat)
    (arrivals : List (Except Failure Bytes)) (action : Action α) (scene : Scene) : Prop :=
  ∃ pieces counts, Tells arrivals total pieces counts (surroundings.attempt action scene).1.isOk
    ∧ (surroundings.attempt action scene).2.heard = watch.heard total counts

theorem Watch.heard_nil (watch : Watch) (total : Nat) : watch.heard total [] = ([], []) := by
  cases watch <;> rfl

/-- An action that fails and tells nothing. -/
theorem Telling.of_unheard (fails : (surroundings.attempt action scene).1.isOk = false)
    (unheard : (surroundings.attempt action scene).2.heard = ([], [])) :
    Telling surroundings watch total arrivals action scene :=
  ⟨[], [], fails ▸ .nothing, unheard.trans (Watch.heard_nil watch total).symm⟩

theorem Telling.orElse_of_silent {handler : Failure → Action α}
    (telling : Telling surroundings watch total arrivals action scene)
    (silent : ∀ failure, (handler failure).Only Effect.IsSilent)
    (fails : ∀ failure later, ∃ other,
      (surroundings.attempt (handler failure) later).1 = .error other) :
    Telling surroundings watch total arrivals (action.orElse handler) scene := by
  obtain ⟨pieces, counts, tells, heard⟩ := telling
  refine ⟨pieces, counts, tells.weaken fun ok => ?_, (heard_orElse_of_silent silent).trans heard⟩
  obtain ⟨value, after, done⟩ := Surroundings.exists_success ok
  rw [(Surroundings.attempt_orElse_eq_ok_iff fails).mp done]
  rfl

/-- What is told of a body before the file is closed. -/
theorem Telling.closing {action : Action Unit}
    (telling : Telling surroundings watch total arrivals action scene) :
    Telling surroundings watch total arrivals (action.whatever (Files.close file)) scene := by
  obtain ⟨pieces, counts, tells, heard⟩ := telling
  unfold Telling
  rw [attempt_whatever_closing]
  refine ⟨pieces, counts, tells.weaken fun ok => ?_, heard⟩
  cases free : surroundings.refusals.close with
  | none =>
    rw [free] at ok
    exact ok
  | some failure =>
    rw [free] at ok
    cases ok

theorem telling_bind_iff_of_ok {next : α → Action β} {value : α}
    (ok : surroundings.attempt action scene = (.ok value, later)) :
    Telling surroundings watch total arrivals (action >>= next) scene
      ↔ Telling surroundings watch total arrivals (next value) later := by
  unfold Telling
  rw [Surroundings.attempt_bind_of_ok ok]

/-- What comes behind a silent action that nothing has been told before. -/
theorem Telling.after_silent {next : α → Action β} (silent : action.Only Effect.IsSilent)
    (unheard : scene.heard = ([], []))
    (rest : ∀ value later, later.heard = ([], []) →
      Telling surroundings watch total arrivals (next value) later) :
    Telling surroundings watch total arrivals (action >>= next) scene := by
  have kept := (heard_attempt_of_silent surroundings silent scene).trans unheard
  cases ended : surroundings.attempt action scene with
  | mk outcome later =>
    rw [ended] at kept
    cases outcome with
    | ok value => exact (telling_bind_iff_of_ok ended).mpr (rest value later kept)
    | error failure =>
      have failed : surroundings.attempt (action >>= next) scene = (.error failure, later) := by
        rw [Surroundings.attempt_bind, ended]
      exact .of_unheard (by rw [failed]; rfl) (by rw [failed]; exact kept)

theorem silent_setWished (job : Download) (file : Path) :
    (job.setWished file).Only Effect.IsSilent := by
  unfold setWished
  cases job.mode.value? with
  | none => exact .pure _
  | some mode => exact .attempt (.perform trivial)

/-- **The counts told of a body**, however the writing ends. -/
theorem telling_writeBody (unheard : scene.heard = ([], [])) :
    Telling surroundings watch total arrivals (writeBody job watch file total arrivals) scene := by
  rw [writeBody_eq]
  refine .after_silent (silent_setWished job file) unheard fun _ scene unheard => ?_
  obtain ⟨pieces, told⟩ :=
    told_writePieces surroundings job watch file total arrivals (.start job) scene
  unfold Telling
  rw [Surroundings.attempt_bind]
  split
  · rename_i done written wrote
    rw [wrote] at told
    obtain ⟨arrived, read, tracker⟩ := told.all done rfl
    obtain ⟨more, either, heard, whole⟩ :=
      heard_conclude surroundings job watch file total done written
    have counts : (written.told watch total done.tracker more).heard
        = watch.heard total (countsAfter 0 pieces ++ more) := by
      rw [← heard_told_of_unheard unheard, Scene.told_append, tracker]
      exact heard_told_of_heard told.heard ..
    refine ⟨pieces, countsAfter 0 pieces ++ more, ⟨told.arrived, ?_, ?_⟩, heard.trans counts⟩
    · rcases either with rfl | rfl
      · exact .inl (List.append_nil _)
      · exact .inr rfl
    · intro ok
      obtain ⟨enough, rfl⟩ := whole ok
      refine ⟨arrived, ?_, rfl⟩
      simpa [read, Standing.start] using enough
  · rename_i wrote
    rw [wrote] at told
    exact ⟨pieces, _, ⟨told.arrived, .inl rfl, fun done => by cases done⟩,
      told.heard.trans (heard_told_of_unheard unheard ..)⟩

theorem telling_fill (unheard : scene.heard = ([], [])) :
    Telling surroundings watch total arrivals (fill job watch file total arrivals) scene := by
  refine Telling.orElse_of_silent ?_ (fun failure => ?_) fun failure now => ?_
  · exact .after_silent (.attempt (.perform trivial)) unheard fun _ created unheard =>
      (telling_writeBody unheard).closing
  · unfold explain
    split
    · exact .bind (silent_log ..) fun _ => .throw _
    · exact .bind (silent_log ..) fun _ => .throw _
    · exact .bind (silent_log ..) fun _ => .throw _
    · exact .throw _
  · unfold explain
    split <;> exact ⟨_, rfl⟩

theorem silent_refused (job : Download) (response : Response) :
    (refused job response).Only Effect.IsSilent :=
  .bind (.ofExcept _) fun _ => .bind (silent_log ..) fun _ => .bind (silent_log ..) fun _ =>
    .throw _

/-- **A request that fails tells nothing, and one that succeeds tells of the body** of a response
that announces a size. -/
theorem telling_fetch (surroundings : Surroundings) (downloader : Downloader) (job : Download)
    (watch : Watch) (file : Path) (tree : FileTree) :
    ((surroundings.attempt (fetch job downloader watch file) (.start tree)).1.isOk = false
        ∧ (surroundings.attempt (fetch job downloader watch file) (.start tree)).2.heard = ([], []))
      ∨ ∃ response total, surroundings.script.head? = some (.ok response) ∧ Announces response total
        ∧ Telling surroundings watch total (response.arrivals downloader.pieceSize)
            (fetch job downloader watch file) (.start tree) := by
  have silent : ∀ {action : Action Unit}, action.Only Effect.IsSilent →
      (surroundings.attempt action (sentOnly tree 1)).2.heard = ([], []) := fun silent =>
    heard_attempt_of_silent surroundings silent _
  unfold fetch Telling
  rw [Surroundings.attempt_bind_of_ok (attempt_send _)]
  cases head : surroundings.script.head? with
  | none =>
    refine .inl ⟨?_, silent (.ite (.bind (silent_log ..) fun _ => .throw _) (.throw _))⟩
    rfl
  | some reply =>
    cases reply with
    | error failure =>
      refine .inl ⟨?_, silent (.ite (.bind (silent_log ..) fun _ => .throw _) (.throw _))⟩
      show (surroundings.attempt (if failure.isNetwork then _ else _) _).1.isOk = false
      split <;> rfl
    | ok response =>
      simp only [Option.getD_some, attempt_whatever_close]
      by_cases refusal : response.isRefusal = true
      · rw [if_pos refusal]
        refine .inl ⟨?_, silent (silent_refused job response)⟩
        cases ended : surroundings.attempt (refused job response) (sentOnly tree 1) with
        | mk outcome later =>
          cases outcome with
          | ok value => exact absurd ended attempt_refused_ne_ok
          | error failure => rfl
      · rw [if_neg refusal]
        unfold accepted
        rw [Surroundings.attempt_bind, Surroundings.attempt_ofExcept]
        cases size : contentLength job.url ((response.headers.value? "content-length").getD .null)
          with
        | error failure => exact .inl ⟨rfl, rfl⟩
        | ok total =>
          refine .inr ⟨response, total, rfl, (contentLength_eq_ok_iff job.url).mp size, ?_⟩
          exact Telling.after_silent (silent_log ..) rfl fun _ _ unheard => telling_fill unheard

theorem silent_clear (file : Path) : (clear file).Only Effect.IsSilent :=
  .orElse (.orElse (.attempt (.perform trivial)) fun _ => .ite (.pure _) (.throw _)) fun _ =>
    .ite (silent_log ..) (.throw _)

theorem silent_settle (job : Download) (file destination : Path) :
    (settle job file destination).Only Effect.IsSilent :=
  .orElse (.attempt (.perform trivial)) fun _ =>
    .ite (.bind (silent_log ..) fun _ => .throw _) (.throw _)

/-- Nothing is told but by the request and the writing. -/
theorem heard_deliverOrClear (destination : Path) :
    (surroundings.attempt (deliverOrClear job downloader watch file destination) scene).2.heard
      = (surroundings.attempt (fetch job downloader watch file) scene).2.heard := by
  unfold deliverOrClear deliver
  rw [heard_orElse_of_silent fun _ => .bind (silent_clear file) fun _ => .throw _,
    heard_bind_of_silent fun _ => silent_settle job file destination]

/-- **What a download tells**: nothing if there is no size announced, and then it fails; otherwise
counts of the body. -/
theorem telling_download (surroundings : Surroundings) (downloader : Downloader) (job : Download)
    (watch : Watch) (tree : FileTree) :
    ((surroundings.attempt (download downloader job watch) (.start tree)).1.isOk = false
        ∧ (surroundings.attempt (download downloader job watch) (.start tree)).2.heard = ([], []))
      ∨ ∃ response total, surroundings.script.head? = some (.ok response) ∧ Announces response total
        ∧ Telling surroundings watch total (response.arrivals downloader.pieceSize)
            (download downloader job watch) (.start tree) := by
  cases path : job.destination.path with
  | error failure =>
    rw [download_eq, path]
    exact .inl ⟨rfl, rfl⟩
  | ok destination =>
    cases fresh : temporaryPath destination surroundings.name with
    | error failure =>
      have placed : surroundings.attempt (.ofExcept (temporaryPath destination surroundings.name))
          (.start tree) = (.error failure, .start tree) := congrArg (·, Scene.start tree) fresh
      rw [download_eq, path, Surroundings.attempt_bind_of_ok (Surroundings.attempt_ofExcept _ _),
        Surroundings.attempt_bind_of_ok (attempt_randomName _), Surroundings.attempt_bind, placed]
      exact .inl ⟨rfl, rfl⟩
    | ok file =>
      have heard : (surroundings.attempt (download downloader job watch) (.start tree)).2.heard
          = (surroundings.attempt (fetch job downloader watch file) (.start tree)).2.heard := by
        rw [attempt_download path fresh, ← heard_deliverOrClear destination]
        split <;> rename_i delivered <;> rw [delivered]
      have successful :
          (surroundings.attempt (download downloader job watch) (.start tree)).1.isOk = true →
          (surroundings.attempt (fetch job downloader watch file) (.start tree)).1.isOk = true := by
        intro ok
        obtain ⟨_, _, done⟩ := Surroundings.exists_success ok
        obtain ⟨_, delivered⟩ := (attempt_download_eq_ok_iff path fresh).mp done
        obtain ⟨_, fetched, _⟩ := attempt_deliver_eq_ok_iff.mp delivered
        rw [fetched]
        rfl
      rcases telling_fetch surroundings downloader job watch file tree with
        ⟨fails, unheard⟩ | ⟨response, total, head, size, told⟩
      · refine .inl ⟨?_, heard.trans unheard⟩
        rw [Bool.eq_false_iff]
        exact fun ok => absurd (successful ok) (by rw [fails]; exact Bool.false_ne_true)
      · obtain ⟨pieces, counts, tells, same⟩ := told
        exact .inr ⟨response, total, head, size, pieces, counts, tells.weaken successful,
          heard.trans same⟩

end Whole

end Download

end AssetFetch
