/-
**What interrupts the writing of a body.**

The new file may not be created or given its permission bits, a failure may arrive in place of a
piece, a piece may be damaged or not be written, what is held back may not be written, the disk may
not be waited for, and the file may not be closed. Whichever of these comes first is the failure
with which the writing ends, unless the close fails after it.

* `Failure.isInputOutput`: the failures of the system, the network and the decompression;
* `ArrivalFails`, `attempt_writePieces_cases`: one piece;
* `attempt_writePieces_append`, `attempt_writePieces_eq_error_iff`: all pieces;
* `Breaks`, `attempt_writeBody_eq_error_iff`: the whole body;
* `Interrupts`: the first failure from the creation of the file to its close;
* `Replaces`, `attempt_writeAll_of_interrupts`: the failure with which the writing ends.
-/

import AssetFetch.Proofs.Download.Whole
import AssetFetch.Proofs.Failures

namespace AssetFetch

/-- Whether a failure is one of input and output: of the system, of the network, or of the
decompression. -/
def Failure.isInputOutput : Failure → Bool
  | .system _ | .network _ | .gzip _ => true
  | _ => false

theorem Failure.isInputOutput_of_isOfFile {failure : Failure} (ofFile : failure.isOfFile = true) :
    failure.isSystem = true ∨ failure.isInputOutput = false := by
  cases failure with
  | system fault => exact Or.inl rfl
  | nullInPath | unencodable | notAnInteger | modeTooLarge => exact Or.inr rfl
  | _ => cases ofFile

namespace Download

/-! ### Pieces -/

section Pieces

variable {surroundings : Surroundings} {scene now later : Scene} {job : Download} {watch : Watch}
  {file : Path} {total : Nat} {standing reached : Standing} {failure : Failure}
  {early late : List (Except Failure Bytes)} {arrival : Except Failure Bytes}

/-- What interrupts the writing of a body where the next piece should arrive: a failure arrives, the
piece cannot be unpacked, or it cannot be written. -/
inductive ArrivalFails (surroundings : Surroundings) (file : Path) (standing : Standing)
    (scene : Scene) (failure : Failure) : Except Failure Bytes → Prop
  | arrival : ArrivalFails surroundings file standing scene failure (.error failure)
  | unpack {piece : Bytes} :
      surroundings.stop scene.looks = false → piece.isEmpty = false →
      unpack standing.stream piece = .error failure →
      ArrivalFails surroundings file standing scene failure (.ok piece)
  | append {piece : Bytes} {unpacked : Bytes × Option Gzip.Stream} :
      surroundings.stop scene.looks = false → piece.isEmpty = false →
      unpack standing.stream piece = .ok unpacked →
      (surroundings.onFile scene (.append file unpacked.1)).1 = .error failure →
      ArrivalFails surroundings file standing scene failure (.ok piece)

/-- A failed operation on files, as an action. -/
theorem attempt_file_of_error {action : FileAction}
    (failed : (surroundings.onFile scene action).1 = .error failure) :
    ∃ later, surroundings.attempt (.attempt (perform (.file action))) scene
      = (.error failure, later) :=
  ⟨_, Prod.ext failed rfl⟩

/-- **One piece with bytes** fails exactly where it cannot be unpacked or written. -/
theorem attempt_writePiece_eq_error_iff (calm : ∀ number, surroundings.follow number = .ok ())
    {piece : Bytes} :
    (∃ later, surroundings.attempt (writePiece watch file total standing piece) scene
        = (.error failure, later))
      ↔ unpack standing.stream piece = .error failure
        ∨ ∃ unpacked, unpack standing.stream piece = .ok unpacked
          ∧ (surroundings.onFile scene (.append file unpacked.1)).1 = .error failure := by
  rw [writePiece, Surroundings.attempt_bind, Surroundings.attempt_ofExcept]
  cases unpack standing.stream piece with
  | error fault => simp
  | ok unpacked =>
    simp only [reduceCtorEq, false_or, Except.ok.injEq, exists_eq_left']
    cases written : surroundings.attempt (Files.append file unpacked.1) scene with
    | mk result after =>
      obtain rfl : (surroundings.onFile scene (.append file unpacked.1)).1 = result :=
        congrArg Prod.fst written
      cases refused : (surroundings.onFile scene (.append file unpacked.1)).1 with
      | error fault =>
        rw [refused] at written
        rw [Surroundings.attempt_bind_of_error written]
        simp
      | ok _ =>
        rw [refused] at written
        have told : surroundings.attempt
            (notify watch (standing.read + piece.length) total standing.tracker) after = _ :=
          attempt_notify_eq_ok_iff.mpr ⟨fun _ _ _ => calm _, rfl, rfl⟩
        rw [Surroundings.attempt_bind_of_ok written, Surroundings.attempt_bind_of_ok told]
        refine iff_of_false ?_ (by simp)
        rintro ⟨_, ended⟩
        cases ended

/-- Where such a thing happens, the writing ends with that failure. -/
theorem attempt_writePieces_of_fails (calm : ∀ number, surroundings.follow number = .ok ())
    (fails : ArrivalFails surroundings file standing scene failure arrival) :
    ∃ later, surroundings.attempt
        (writePieces job watch file total (arrival :: late) standing) scene
      = (.error failure, later) := by
  have ends : ∀ piece : Bytes, surroundings.stop scene.looks = false → piece.isEmpty = false →
      (∃ later, surroundings.attempt (writePiece watch file total standing piece)
          { scene with looks := scene.looks + 1 } = (.error failure, later)) →
        ∃ later, surroundings.attempt
            (writePieces job watch file total (.ok piece :: late) standing) scene
          = (.error failure, later) := by
    rintro piece going filled ⟨later, failed⟩
    rw [writePieces_cons, Surroundings.attempt_bind_of_ok (attempt_isCancelled scene), going,
      filled]
    exact ⟨later, Surroundings.attempt_bind_of_error failed⟩
  cases fails with
  | arrival => exact ⟨scene, rfl⟩
  | unpack going filled damaged =>
    exact ends _ going filled ((attempt_writePiece_eq_error_iff calm).mpr (.inl damaged))
  | append going filled unpacked refused =>
    exact ends _ going filled
      ((attempt_writePiece_eq_error_iff calm).mpr (.inr ⟨_, unpacked, refused⟩))

/-- **One piece**: the writing ends with a failure that is none of input and output, or such a
failure comes from the surroundings, or the rest goes on. -/
theorem attempt_writePieces_cases (calm : ∀ number, surroundings.follow number = .ok ())
    (arrival : Except Failure Bytes) (standing : Standing) (scene : Scene) :
    (∃ failure later, (failure.isInputOutput = true →
          ArrivalFails surroundings file standing scene failure arrival)
        ∧ ∀ late, surroundings.attempt
            (writePieces job watch file total (arrival :: late) standing) scene
          = (.error failure, later))
      ∨ ∃ next after, ∀ late, surroundings.attempt
            (writePieces job watch file total (arrival :: late) standing) scene
          = surroundings.attempt (writePieces job watch file total late next) after := by
  cases arrival with
  | error failure => exact Or.inl ⟨failure, scene, fun _ => .arrival, fun _ => rfl⟩
  | ok piece =>
    simp only [writePieces_cons, Surroundings.attempt_bind_of_ok (attempt_isCancelled scene)]
    cases going : surroundings.stop scene.looks with
    | true =>
      exact Or.inl ⟨.ofFetch (.cancelled job.url job.destination.text), _, nofun, fun _ => rfl⟩
    | false =>
      cases filled : piece.isEmpty with
      | true => exact Or.inr ⟨standing, _, fun _ => rfl⟩
      | false =>
        simp only [Bool.false_eq_true, if_false]
        cases written : surroundings.attempt (writePiece watch file total standing piece)
            { scene with looks := scene.looks + 1 } with
        | mk result after =>
          cases result with
          | error failure =>
            refine .inl ⟨failure, after, fun _ => ?_, fun late =>
              Surroundings.attempt_bind_of_error written⟩
            rcases (attempt_writePiece_eq_error_iff calm).mp ⟨after, written⟩ with
              damaged | ⟨unpacked, whole, refused⟩
            · exact .unpack going filled damaged
            · exact .append going filled whole refused
          | ok next =>
            exact .inr ⟨next, after, fun late => Surroundings.attempt_bind_of_ok written⟩

/-- The pieces behind some that have been written. -/
theorem attempt_writePieces_append (calm : ∀ number, surroundings.follow number = .ok ())
    (written : surroundings.attempt (writePieces job watch file total early standing) scene
      = (.ok reached, now)) :
    surroundings.attempt (writePieces job watch file total (early ++ late) standing) scene
      = surroundings.attempt (writePieces job watch file total late reached) now := by
  induction early generalizing standing scene with
  | nil =>
    cases written
    rfl
  | cons arrival early ih =>
    rcases attempt_writePieces_cases calm arrival standing scene with
      ⟨failure, last, _, ends⟩ | ⟨next, after, goes⟩
    · rw [ends early] at written
      cases written
    · rw [goes early] at written
      rw [List.cons_append, goes, ih written]

/-- **The writing of pieces is interrupted** exactly where the next piece should arrive after some
that have been written. -/
theorem attempt_writePieces_eq_error_iff (calm : ∀ number, surroundings.follow number = .ok ())
    (outer : failure.isInputOutput = true) {arrivals : List (Except Failure Bytes)} :
    (∃ later, surroundings.attempt (writePieces job watch file total arrivals standing) scene
        = (.error failure, later))
      ↔ ∃ early arrival late reached now, arrivals = early ++ arrival :: late
        ∧ surroundings.attempt (writePieces job watch file total early standing) scene
          = (.ok reached, now)
        ∧ ArrivalFails surroundings file reached now failure arrival := by
  constructor
  · rintro ⟨later, failed⟩
    induction arrivals generalizing standing scene with
    | nil => cases failed
    | cons arrival arrivals ih =>
      rcases attempt_writePieces_cases calm arrival standing scene with
        ⟨other, last, fails, ends⟩ | ⟨next, after, goes⟩
      · rw [ends arrivals] at failed
        cases failed
        exact ⟨[], arrival, arrivals, standing, scene, rfl, rfl, fails outer⟩
      · rw [goes arrivals] at failed
        obtain ⟨early, inner, late, reached, now, rfl, written, fails⟩ := ih failed
        exact ⟨arrival :: early, inner, late, reached, now, rfl, (goes early).trans written, fails⟩
  · rintro ⟨early, arrival, late, reached, now, rfl, written, fails⟩
    rw [attempt_writePieces_append calm written]
    exact attempt_writePieces_of_fails calm fails

end Pieces

/-! ### The whole body -/

section Writing

variable {surroundings : Surroundings} {scene later : Scene} {job : Download} {watch : Watch}
  {file : Path} {total : Nat} {failure : Failure} {arrivals : List (Except Failure Bytes)}

/-- **What breaks off the writing of a body** into a file that is there: the file cannot be given
its permission bits, the next piece fails, what is held back cannot be written, or the disk cannot
be waited for. Everything before has succeeded. -/
inductive Breaks (surroundings : Surroundings) (job : Download) (watch : Watch) (file : Path)
    (total : Nat) (arrivals : List (Except Failure Bytes)) (scene : Scene) (failure : Failure) :
    Prop
  | setMode {mode : Int} : job.mode.value? = some mode →
      (surroundings.onFile scene (.setMode file mode)).1 = .error failure →
      Breaks surroundings job watch file total arrivals scene failure
  | piece {ready now : Scene} {early late : List (Except Failure Bytes)}
      {arrival : Except Failure Bytes} {standing : Standing} :
      surroundings.attempt (job.setWished file) scene = (.ok (), ready) →
      arrivals = early ++ arrival :: late →
      surroundings.attempt (writePieces job watch file total early (.start job)) ready
        = (.ok standing, now) →
      ArrivalFails surroundings file standing now failure arrival →
      Breaks surroundings job watch file total arrivals scene failure
  | flush {ready now : Scene} {standing : Standing} :
      surroundings.attempt (job.setWished file) scene = (.ok (), ready) →
      surroundings.attempt (writePieces job watch file total arrivals (.start job)) ready
        = (.ok standing, now) →
      total ≤ standing.read → surroundings.refusals.flush = some failure →
      Breaks surroundings job watch file total arrivals scene failure
  | sync {ready now : Scene} {standing : Standing} :
      surroundings.attempt (job.setWished file) scene = (.ok (), ready) →
      surroundings.attempt (writePieces job watch file total arrivals (.start job)) ready
        = (.ok standing, now) →
      total ≤ standing.read → surroundings.refusals.flush = none →
      surroundings.refusals.sync = some failure →
      Breaks surroundings job watch file total arrivals scene failure

theorem attempt_setWished_eq_error_iff :
    (∃ later, surroundings.attempt (job.setWished file) scene = (.error failure, later))
      ↔ ∃ mode, job.mode.value? = some mode
        ∧ (surroundings.onFile scene (.setMode file mode)).1 = .error failure := by
  unfold setWished
  cases job.mode.value? with
  | none =>
    constructor
    · rintro ⟨later, failed⟩
      cases failed
    · rintro ⟨mode, wished, _⟩
      cases wished
  | some mode =>
    constructor
    · rintro ⟨later, failed⟩
      exact ⟨mode, rfl, congrArg Prod.fst failed⟩
    · rintro ⟨_, ⟨⟩, refused⟩
      exact attempt_file_of_error refused

/-- What is held back is written before the disk is waited for. -/
theorem attempt_persist_eq_error_iff :
    (∃ later, surroundings.attempt (persist file) scene = (.error failure, later))
      ↔ surroundings.refusals.flush = some failure
        ∨ surroundings.refusals.flush = none ∧ surroundings.refusals.sync = some failure := by
  have flushes : ∀ later, surroundings.attempt (Files.flush file) scene = (.error failure, later)
      ↔ surroundings.refusals.flush = some failure ∧ later = scene := fun _ =>
    attempt_settling_eq_error_iff (.flush file) trivial
  have flushed : ∀ later, surroundings.attempt (Files.flush file) scene = (.ok (), later)
      ↔ surroundings.refusals.flush = none ∧ later = scene := fun _ =>
    attempt_settling_eq_ok_iff (.flush file) trivial ()
  have syncs : ∀ later, surroundings.attempt (Files.sync file) scene = (.error failure, later)
      ↔ surroundings.refusals.sync = some failure ∧ later = scene := fun _ =>
    attempt_settling_eq_error_iff (.sync file) trivial
  rw [persist, Surroundings.attempt_bind_eq_error_iff]
  refine or_congr (by simp [flushes]) ?_
  constructor
  · rintro ⟨_, after, flushed', failed⟩
    obtain ⟨free, rfl⟩ := (flushed after).mp flushed'
    obtain ⟨last, failed⟩ := failed
    exact ⟨free, ((syncs last).mp failed).1⟩
  · rintro ⟨free, refused⟩
    exact ⟨(), scene, (flushed scene).mpr ⟨free, rfl⟩, scene, (syncs scene).mpr ⟨refused, rfl⟩⟩

/-- Nothing but the disk breaks off the end of the writing. -/
theorem attempt_conclude_eq_error_iff (calm : ∀ number, surroundings.follow number = .ok ())
    (outer : failure.isInputOutput = true) {standing : Standing} :
    (∃ later, surroundings.attempt (conclude job watch file total standing) scene
        = (.error failure, later))
      ↔ total ≤ standing.read
        ∧ (surroundings.refusals.flush = some failure
          ∨ surroundings.refusals.flush = none ∧ surroundings.refusals.sync = some failure) := by
  unfold conclude
  by_cases short : standing.read < total
  · rw [if_pos short]
    constructor
    · rintro ⟨later, failed⟩
      cases failed
      cases outer
    · rintro ⟨enough, _⟩
      omega
  · rw [if_neg short, and_iff_right (Nat.le_of_not_lt short)]
    by_cases nothing : (total == 0) = true
    · rw [if_pos nothing]
      have told : surroundings.attempt (discard (notify watch 0 0 standing.tracker)) scene
          = (.ok (), scene.told watch 0 standing.tracker [0]) := by
        have notified : surroundings.attempt (notify watch 0 0 standing.tracker) scene = _ :=
          attempt_notify_eq_ok_iff.mpr ⟨fun _ _ _ => calm _, rfl, rfl⟩
        exact (Surroundings.attempt_bind_of_ok notified).trans rfl
      rw [Surroundings.attempt_bind_of_ok told, attempt_persist_eq_error_iff]
    · rw [if_neg nothing, attempt_persist_eq_error_iff]

/-- **The writing of a body breaks off** with a failure of input and output exactly where something
breaks it off. -/
theorem attempt_writeBody_eq_error_iff (calm : ∀ number, surroundings.follow number = .ok ())
    (outer : failure.isInputOutput = true) :
    (∃ later, surroundings.attempt (writeBody job watch file total arrivals) scene
        = (.error failure, later))
      ↔ Breaks surroundings job watch file total arrivals scene failure := by
  rw [writeBody_eq, Surroundings.attempt_bind_eq_error_iff]
  constructor
  · rintro (broken | ⟨_, ready, set, failed⟩)
    · obtain ⟨mode, wished, refused⟩ := attempt_setWished_eq_error_iff.mp broken
      exact .setMode wished refused
    rcases Surroundings.attempt_bind_eq_error_iff.mp failed with
      broken | ⟨standing, now, written, failed⟩
    · obtain ⟨early, arrival, late, standing, now, split, written, fails⟩ :=
        (attempt_writePieces_eq_error_iff calm outer).mp broken
      exact .piece set split written fails
    · obtain ⟨enough, unflushed | ⟨flushed, unsynced⟩⟩ :=
        (attempt_conclude_eq_error_iff calm outer).mp failed
      · exact .flush set written enough unflushed
      · exact .sync set written enough flushed unsynced
  · rintro (⟨wished, refused⟩ | ⟨set, split, written, fails⟩ | ⟨set, written, enough, unflushed⟩ |
      ⟨set, written, enough, flushed, unsynced⟩)
    · exact Or.inl (attempt_setWished_eq_error_iff.mpr ⟨_, wished, refused⟩)
    all_goals refine Or.inr ⟨_, _, set, Surroundings.attempt_bind_eq_error_iff.mpr ?_⟩
    · exact Or.inl ((attempt_writePieces_eq_error_iff calm outer).mpr
        ⟨_, _, _, _, _, split, written, fails⟩)
    · exact Or.inr ⟨_, _, written,
        (attempt_conclude_eq_error_iff calm outer).mpr ⟨enough, Or.inl unflushed⟩⟩
    · exact Or.inr ⟨_, _, written,
        (attempt_conclude_eq_error_iff calm outer).mpr ⟨enough, Or.inr ⟨flushed, unsynced⟩⟩⟩

/-! ### The new file from its creation to its close -/

/-- **The first failure of input and output** in the writing of a new file: it cannot be created,
its body breaks off, or it cannot be closed, where the body has met no such failure. -/
inductive Interrupts (surroundings : Surroundings) (job : Download) (watch : Watch) (file : Path)
    (total : Nat) (arrivals : List (Except Failure Bytes)) (scene : Scene) (failure : Failure) :
    Prop
  | create : (surroundings.onFile scene (.create file job.mode)).1 = .error failure →
      Interrupts surroundings job watch file total arrivals scene failure
  | body {created : Scene} :
      surroundings.attempt (Files.create file job.mode) scene = (.ok (), created) →
      Breaks surroundings job watch file total arrivals created failure →
      Interrupts surroundings job watch file total arrivals scene failure
  | close {created now : Scene} {result : Except Failure Unit} :
      surroundings.attempt (Files.create file job.mode) scene = (.ok (), created) →
      surroundings.attempt (writeBody job watch file total arrivals) created = (result, now) →
      (∀ other, result = .error other → other.isInputOutput = false) →
      surroundings.refusals.close = some failure →
      Interrupts surroundings job watch file total arrivals scene failure

/-- **The close replaces a failure**: the body breaks off with it, and then the file cannot be
closed for another one. -/
def Replaces (surroundings : Surroundings) (job : Download) (watch : Watch) (file : Path)
    (total : Nat) (arrivals : List (Except Failure Bytes)) (scene : Scene)
    (failure other : Failure) : Prop :=
  ∃ created, surroundings.attempt (Files.create file job.mode) scene = (.ok (), created)
    ∧ Breaks surroundings job watch file total arrivals created failure
    ∧ surroundings.refusals.close = some other

/-- **The failure with which the writing ends**: the first one, unless the close replaces it. -/
theorem attempt_writeAll_of_interrupts (calm : ∀ number, surroundings.follow number = .ok ())
    (outer : failure.isInputOutput = true)
    (interrupts : Interrupts surroundings job watch file total arrivals scene failure) :
    ∃ last later, surroundings.attempt (writeAll job watch file total arrivals) scene
        = (.error last, later)
      ∧ (last = failure
        ∨ Replaces surroundings job watch file total arrivals scene failure last) := by
  cases interrupts with
  | create refused =>
    obtain ⟨later, failed⟩ := attempt_file_of_error refused
    exact ⟨failure, later, Surroundings.attempt_bind_of_error failed, Or.inl rfl⟩
  | body made breaks =>
    obtain ⟨later, broken⟩ := (attempt_writeBody_eq_error_iff calm outer).mpr breaks
    rw [writeAll, Surroundings.attempt_bind_of_ok made, attempt_whatever_closing, broken]
    cases unclosed : surroundings.refusals.close with
    | none => exact ⟨failure, later, rfl, Or.inl rfl⟩
    | some other => exact ⟨other, later, rfl, Or.inr ⟨_, made, breaks, unclosed⟩⟩
  | close made ran _ unclosed =>
    rw [writeAll, Surroundings.attempt_bind_of_ok made, attempt_whatever_closing, unclosed]
    exact ⟨failure, _, rfl, Or.inl rfl⟩

end Writing

end Download

end AssetFetch
