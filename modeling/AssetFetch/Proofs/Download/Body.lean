/-
**A body that is written to its end.**

* `unpack_append_eq_ok_iff`: a body may be unpacked in parts;
* `countsAfter`, `Watch.calls`, `Watch.reports`: what a follower is told of the pieces of a body;
* `Received`: everything that lets pieces be written, from a scene on;
* `attempt_writePieces_eq_ok_iff`: the pieces are written exactly then, and what the scene is after
  them.
-/

import AssetFetch.Proofs.Download.Fetch
import AssetFetch.Proofs.Gzip.Stream

namespace AssetFetch

/-! ### What is told -/

section Told

/-- What holds of numbers from one on holds of that one and of those behind it. -/
theorem forall_from_succ_iff (holds : Nat → Prop) (first number : Nat) :
    (∀ index < number + 1, holds (first + index))
      ↔ holds first ∧ ∀ index < number, holds (first + 1 + index) := by
  rw [Nat.forall_lt_succ_left]
  simp only [Nat.add_zero, Nat.add_assoc, Nat.add_comm 1]

/-- The reports that counts give rise to, one after the other. -/
def PercentTracker.reports (total : Nat) (tracker : PercentTracker) : List Nat → List Report
  | [] => []
  | read :: rest =>
    (tracker.step read total).1.toList ++ reports total (tracker.step read total).2 rest

/-- The tracker after counts. -/
def PercentTracker.after (total : Nat) (tracker : PercentTracker) (counts : List Nat) :
    PercentTracker :=
  counts.foldl (fun tracker (read : Nat) => (tracker.step read total).2) tracker

namespace Watch

/-- The counts that a follower of counts is told. -/
def calls (watch : Watch) (total : Nat) (counts : List Nat) : List (Nat × Nat) :=
  match watch with
  | .counts => counts.map fun read => (read, total)
  | _ => []

/-- The reports that a follower of percents is told. -/
def reports (watch : Watch) (total : Nat) (tracker : PercentTracker) (counts : List Nat) :
    List PercentTracker.Report :=
  match watch with
  | .percents => tracker.reports total counts
  | _ => []

/-- The percent reported last after counts. -/
def tracker (watch : Watch) (total : Nat) (tracker : PercentTracker) (counts : List Nat) :
    PercentTracker :=
  match watch with
  | .percents => tracker.after total counts
  | _ => tracker

end Watch

/-- The scene after counts have been told. -/
def Scene.told (scene : Scene) (watch : Watch) (total : Nat) (tracker : PercentTracker)
    (counts : List Nat) : Scene :=
  { scene with
    calls := scene.calls ++ watch.calls total counts
    reports := scene.reports ++ watch.reports total tracker counts }

/-- No call of a follower of counts fails, from one number on. -/
def Surroundings.Follows (surroundings : Surroundings) (watch : Watch) (first number : Nat) :
    Prop :=
  watch = .counts → ∀ index < number, surroundings.follow (first + index) = .ok ()

variable {surroundings : Surroundings} {scene later : Scene} {watch : Watch}

theorem Scene.told_nil (scene : Scene) (watch : Watch) (total : Nat) (tracker : PercentTracker) :
    scene.told watch total tracker [] = scene := by
  cases watch <;> simp [told, Watch.calls, Watch.reports, PercentTracker.reports]

/-- Counts are told one after the other. -/
theorem Scene.told_append (scene : Scene) (watch : Watch) (total : Nat) (tracker : PercentTracker)
    (counts more : List Nat) :
    scene.told watch total tracker (counts ++ more)
      = (scene.told watch total tracker counts).told watch total
          (watch.tracker total tracker counts) more := by
  cases watch with
  | nobody | counts => simp [told, Watch.calls, Watch.reports]
  | percents =>
    have split : tracker.reports total (counts ++ more)
        = tracker.reports total counts ++ (tracker.after total counts).reports total more := by
      induction counts generalizing tracker with
      | nil => rfl
      | cons read rest ih =>
        simp only [List.cons_append, PercentTracker.reports, ih, List.append_assoc]
        rfl
    simp [told, Watch.calls, Watch.reports, Watch.tracker, split]

theorem Watch.tracker_append (watch : Watch) (total : Nat) (tracker : PercentTracker)
    (counts more : List Nat) :
    watch.tracker total tracker (counts ++ more)
      = watch.tracker total (watch.tracker total tracker counts) more := by
  cases watch <;> simp [Watch.tracker, PercentTracker.after]

/-- The calls of a follower go on where the first one ended. -/
theorem Surroundings.follows_succ_iff {number : Nat} (total read : Nat) (tracker : PercentTracker) :
    surroundings.Follows watch scene.calls.length (number + 1)
      ↔ surroundings.Follows watch scene.calls.length 1
        ∧ surroundings.Follows watch (scene.told watch total tracker [read]).calls.length
            number := by
  cases watch with
  | nobody | percents => simp [Follows]
  | counts =>
    simp only [Follows, true_implies, Scene.told, Watch.calls, List.map_cons, List.map_nil,
      List.length_append, List.length_cons, List.length_nil]
    rw [forall_from_succ_iff (surroundings.follow · = .ok ())]
    simp

/-- What a follower says to a call. -/
def Surroundings.heed (surroundings : Surroundings) (watch : Watch) (number : Nat) :
    Except Failure Unit :=
  match watch with
  | .counts => surroundings.follow number
  | _ => .ok ()

theorem Surroundings.heed_eq_ok_iff {number : Nat} :
    surroundings.heed watch number = .ok () ↔ surroundings.Follows watch number 1 := by
  cases watch with
  | nobody | percents => simp [heed, Follows]
  | counts => simp [heed, Follows]

/-- **Who follows is told one count**, whether the call fails or not. -/
theorem Download.attempt_notify (surroundings : Surroundings) (scene : Scene) (watch : Watch)
    (read total : Nat) (tracker : PercentTracker) :
    surroundings.attempt (notify watch read total tracker) scene
      = ((surroundings.heed watch scene.calls.length).map fun _ =>
          watch.tracker total tracker [read], scene.told watch total tracker [read]) := by
  cases watch with
  | nobody => exact congrArg (Prod.mk _) (Scene.told_nil scene .nobody total tracker).symm
  | counts =>
    have told : scene.told .counts total tracker [read]
        = { scene with calls := scene.calls ++ [(read, total)] } := by
      simp [Scene.told, Watch.calls, Watch.reports]
    have asked : surroundings.attempt (.attempt (perform (.progress read total))) scene
        = (surroundings.follow scene.calls.length,
          { scene with calls := scene.calls ++ [(read, total)] }) := rfl
    rw [told, notify, Surroundings.attempt_bind, asked, Surroundings.heed]
    cases surroundings.follow scene.calls.length <;> rfl
  | percents =>
    unfold notify
    cases stepped : tracker.step read total with
    | mk report after =>
      have next : Watch.percents.tracker total tracker [read] = after :=
        congrArg Prod.snd stepped
      cases report with
      | none =>
        have told : scene.told .percents total tracker [read] = scene := by
          simp [Scene.told, Watch.calls, Watch.reports, PercentTracker.reports, stepped]
        rw [told, next]
        rfl
      | some report =>
        have told : scene.told .percents total tracker [read]
            = { scene with reports := scene.reports ++ [report] } := by
          simp [Scene.told, Watch.calls, Watch.reports, PercentTracker.reports, stepped]
        rw [told, next]
        rfl

theorem Download.attempt_notify_eq_ok_iff {read total : Nat} {tracker next : PercentTracker} :
    surroundings.attempt (notify watch read total tracker) scene = (.ok next, later)
      ↔ surroundings.Follows watch scene.calls.length 1
          ∧ next = watch.tracker total tracker [read]
          ∧ later = scene.told watch total tracker [read] := by
  rw [attempt_notify, ← Surroundings.heed_eq_ok_iff]
  cases surroundings.heed watch scene.calls.length with
  | error failure => simp [Except.map]
  | ok _ => simp [Except.map, eq_comm]

end Told

/-! ### Unpacking in parts -/

namespace Download

section Unpacking

variable {stream last : Option Gzip.Stream} {bytes first rest : Bytes}

theorem outputFrom_eq_drop (stream : Gzip.Stream) (size : Nat) :
    stream.outputFrom size = stream.output.toList.drop size := by
  rw [Gzip.Stream.outputFrom, Array.toList_extract, List.extract_eq_take_drop,
    ← Array.length_toList, ← List.length_drop, List.take_length]

theorem unpack_nil (stream : Option Gzip.Stream) : unpack stream [] = .ok ([], stream) := by
  cases stream with
  | none => rfl
  | some stream => simp [unpack, Gzip.Stream.feed, outputFrom_eq_drop]

theorem unpack_some_eq_ok_iff {stream : Gzip.Stream} :
    unpack (some stream) first = .ok (bytes, last)
      ↔ ∃ next, stream.feed first = .ok next ∧ last = some next
          ∧ bytes = next.output.toList.drop stream.output.toList.length := by
  simp only [unpack]
  split
  · rename_i fault fed
    simp [fed]
  · rename_i next fed
    rw [outputFrom_eq_drop, ← Array.length_toList]
    constructor
    · intro unpacked
      cases unpacked
      exact ⟨next, fed, rfl, rfl⟩
    · rintro ⟨other, again, rfl, rfl⟩
      rw [fed] at again
      cases again
      rfl

/-- **A body is unpacked as its parts are**, one after the other. -/
theorem unpack_append_eq_ok_iff :
    unpack stream (first ++ rest) = .ok (bytes, last)
      ↔ ∃ front middle back, unpack stream first = .ok (front, middle)
          ∧ unpack middle rest = .ok (back, last) ∧ bytes = front ++ back := by
  cases stream with
  | none =>
    simp only [unpack, Except.ok.injEq, Prod.mk.injEq]
    constructor
    · rintro ⟨rfl, rfl⟩
      exact ⟨first, none, rest, ⟨rfl, rfl⟩, rfl, rfl⟩
    · rintro ⟨_, _, back, ⟨rfl, rfl⟩, unpacked, rfl⟩
      cases unpacked
      exact ⟨rfl, rfl⟩
  | some stream =>
    rw [unpack_some_eq_ok_iff]
    constructor
    · rintro ⟨next, fed, rfl, rfl⟩
      rw [Gzip.Stream.feed_append] at fed
      cases half : stream.feed first with
      | error fault =>
        rw [half] at fed
        cases fed
      | ok middle =>
        rw [half] at fed
        obtain ⟨front, early⟩ := Gzip.Stream.feed_grows half
        obtain ⟨back, late⟩ := Gzip.Stream.feed_grows (show middle.feed rest = .ok next from fed)
        refine ⟨front, some middle, back, ?_, ?_, ?_⟩
        · exact unpack_some_eq_ok_iff.mpr ⟨middle, half, rfl, by rw [← early, List.drop_left]⟩
        · exact unpack_some_eq_ok_iff.mpr ⟨next, fed, rfl, by rw [← late, List.drop_left]⟩
        · rw [← late, ← early, List.append_assoc, List.drop_left]
    · rintro ⟨front, between, back, one, two, rfl⟩
      obtain ⟨middle, half, rfl, rfl⟩ := unpack_some_eq_ok_iff.mp one
      obtain ⟨next, fed, rfl, rfl⟩ := unpack_some_eq_ok_iff.mp two
      refine ⟨next, ?_, rfl, ?_⟩
      · rw [Gzip.Stream.feed_append, half]
        exact fed
      · obtain ⟨front, early⟩ := Gzip.Stream.feed_grows half
        obtain ⟨back, late⟩ := Gzip.Stream.feed_grows fed
        rw [← late, List.drop_left, ← early, List.drop_left, List.append_assoc, List.drop_left]

end Unpacking

/-! ### Pieces -/

section Pieces

variable {surroundings : Surroundings} {scene later : Scene} {watch : Watch}
  {stream last : Option Gzip.Stream} {read : Nat} {piece bytes : Bytes} {rest : List Bytes}

/-- The bytes that are there after each piece that has any. -/
def countsAfter (read : Nat) : List Bytes → List Nat
  | [] => []
  | piece :: rest =>
    if piece.isEmpty then countsAfter read rest
    else (read + piece.length) :: countsAfter (read + piece.length) rest

theorem countsAfter_cons_of_filled (filled : piece.isEmpty = false) :
    countsAfter read (piece :: rest)
      = [read + piece.length] ++ countsAfter (read + piece.length) rest := by
  simp [countsAfter, filled]

/-- Everything that lets pieces be written from a scene on, with what they unpack to. -/
structure Received (surroundings : Surroundings) (watch : Watch) (scene : Scene) (read : Nat)
    (stream : Option Gzip.Stream) (pieces : List Bytes) (bytes : Bytes)
    (last : Option Gzip.Stream) : Prop where
  going : ∀ index < pieces.length, surroundings.stop (scene.looks + index) = false
  writable : ∀ index < (countsAfter read pieces).length,
    surroundings.refusals.write (scene.writes + index) = none
  follows : surroundings.Follows watch scene.calls.length (countsAfter read pieces).length
  unpacks : unpack stream pieces.flatten = .ok (bytes, last)

theorem received_nil_iff : Received surroundings watch scene read stream [] bytes last
    ↔ bytes = [] ∧ last = stream := by
  constructor
  · intro received
    have unpacked := received.unpacks
    rw [List.flatten_nil, unpack_nil] at unpacked
    cases unpacked
    exact ⟨rfl, rfl⟩
  · rintro ⟨rfl, rfl⟩
    exact ⟨by simp, by simp [countsAfter], by simp [Surroundings.Follows, countsAfter],
      unpack_nil _⟩

/-- A piece without bytes is looked at and passed over. -/
theorem received_cons_of_empty :
    Received surroundings watch scene read stream ([] :: rest) bytes last
      ↔ surroundings.stop scene.looks = false
        ∧ Received surroundings watch { scene with looks := scene.looks + 1 } read stream rest bytes
            last := by
  constructor
  · rintro ⟨going, writable, follows, unpacks⟩
    obtain ⟨first, others⟩ := (forall_from_succ_iff (surroundings.stop · = false) _ _).mp going
    exact ⟨first, others, writable, follows, unpacks⟩
  · rintro ⟨first, others, writable, follows, unpacks⟩
    exact ⟨(forall_from_succ_iff (surroundings.stop · = false) _ _).mpr ⟨first, others⟩, writable,
      follows, unpacks⟩

/-- A piece with bytes is unpacked, written and told of. -/
theorem received_cons_of_filled (total : Nat) (tracker : PercentTracker)
    (filled : piece.isEmpty = false) :
    Received surroundings watch scene read stream (piece :: rest) bytes last
      ↔ surroundings.stop scene.looks = false ∧ surroundings.refusals.write scene.writes = none
        ∧ surroundings.Follows watch scene.calls.length 1
        ∧ ∃ front middle back, unpack stream piece = .ok (front, middle) ∧ bytes = front ++ back
          ∧ Received surroundings watch
              (Scene.told { scene with looks := scene.looks + 1, writes := scene.writes + 1 } watch
                total tracker [read + piece.length])
              (read + piece.length) middle rest back last := by
  have counts : (countsAfter read (piece :: rest)).length
      = (countsAfter (read + piece.length) rest).length + 1 := by
    rw [countsAfter_cons_of_filled filled]
    rfl
  constructor
  · rintro ⟨going, writable, follows, unpacks⟩
    rw [counts] at writable follows
    obtain ⟨going, goOn⟩ := (forall_from_succ_iff (surroundings.stop · = false) _ _).mp going
    obtain ⟨written, writeOn⟩ :=
      (forall_from_succ_iff (surroundings.refusals.write · = none) _ _).mp writable
    obtain ⟨told, tellOn⟩ := (Surroundings.follows_succ_iff total _ tracker).mp follows
    obtain ⟨front, middle, back, one, others, same⟩ := unpack_append_eq_ok_iff.mp unpacks
    exact ⟨going, written, told, front, middle, back, one, same, goOn, writeOn, tellOn, others⟩
  · rintro ⟨going, written, told, front, middle, back, one, same, goOn, writeOn, tellOn, others⟩
    refine ⟨(forall_from_succ_iff (surroundings.stop · = false) _ _).mpr ⟨going, goOn⟩, ?_, ?_, ?_⟩
    · rw [counts]
      exact (forall_from_succ_iff (surroundings.refusals.write · = none) _ _).mpr
        ⟨written, writeOn⟩
    · rw [counts]
      exact (Surroundings.follows_succ_iff total _ tracker).mpr ⟨told, tellOn⟩
    · exact unpack_append_eq_ok_iff.mpr ⟨front, middle, back, one, others, same⟩

end Pieces

/-! ### Writing pieces -/

section Writing

variable {surroundings : Surroundings} {scene later : Scene} {job : Download} {watch : Watch}
  {file : Path} {total : Nat} {tree : FileTree} {location : Location} {written : Bytes} {mode : Nat}
  {standing done : Standing} {piece : Bytes} {rest : List (Except Failure Bytes)}

/-- A look whether there is a wish to stop. -/
theorem attempt_isCancelled (scene : Scene) :
    surroundings.attempt isCancelled scene
      = (.ok (surroundings.stop scene.looks), { scene with looks := scene.looks + 1 }) :=
  rfl

/-- The scene after a look, where a piece is written unless there is a wish to stop. -/
theorem attempt_writePieces_cons :
    surroundings.attempt (writePieces job watch file total (.ok piece :: rest) standing) scene
        = (.ok done, later)
      ↔ surroundings.stop scene.looks = false
        ∧ surroundings.attempt (if piece.isEmpty then writePieces job watch file total rest standing
          else do
            let next ← writePiece watch file total standing piece
            writePieces job watch file total rest next)
          { scene with looks := scene.looks + 1 } = (.ok done, later) := by
  rw [writePieces_cons, Surroundings.attempt_bind, attempt_isCancelled]
  cases surroundings.stop scene.looks with
  | true =>
    refine ⟨fun stopped => ?_, fun other => absurd other.1 (by simp)⟩
    cases stopped
  | false =>
    simp only [true_and]
    rfl

theorem attempt_writePieces_empty :
    surroundings.attempt (writePieces job watch file total (.ok [] :: rest) standing) scene
        = (.ok done, later)
      ↔ surroundings.stop scene.looks = false
        ∧ surroundings.attempt (writePieces job watch file total rest standing)
          { scene with looks := scene.looks + 1 } = (.ok done, later) :=
  attempt_writePieces_cons

/-- Where a write is not refused, the draft grows. -/
theorem attempt_append_eq_ok_iff (vacant : tree.Vacant file location)
    (here : scene.tree = tree.put location (.file written mode)) {bytes : Bytes} :
    surroundings.attempt (Files.append file bytes) scene = (.ok (), later)
      ↔ surroundings.refusals.write scene.writes = none
        ∧ later = { scene with
            tree := tree.put location
              (.file (written ++ bytes) (FileTree.modeWith tree.privileged bytes mode))
            writes := scene.writes + 1 } := by
  refine (attempt_file_eq_ok_iff (.append file bytes) ()).trans ?_
  rw [onFile_append vacant here]
  cases surroundings.refusals.write scene.writes with
  | some failure =>
    constructor
    · rintro ⟨_, appended, _⟩
      cases appended
    · rintro ⟨free, _⟩
      cases free
  | none =>
    constructor
    · rintro ⟨_, appended, rfl⟩
      cases appended
      exact ⟨rfl, rfl⟩
    · rintro ⟨_, rfl⟩
      exact ⟨_, rfl, rfl⟩

/-- **One piece**: it is unpacked, written and told of, unless one of these fails. -/
theorem attempt_writePiece_eq_ok_iff (vacant : tree.Vacant file location)
    (here : scene.tree = tree.put location (.file written mode)) :
    surroundings.attempt (writePiece watch file total standing piece) scene = (.ok done, later)
      ↔ surroundings.refusals.write scene.writes = none
        ∧ surroundings.Follows watch scene.calls.length 1
        ∧ ∃ front middle, unpack standing.stream piece = .ok (front, middle)
          ∧ done = ⟨standing.read + piece.length, middle,
              watch.tracker total standing.tracker [standing.read + piece.length]⟩
          ∧ later = Scene.told { scene with
              tree := tree.put location
                (.file (written ++ front) (FileTree.modeWith tree.privileged front mode))
              writes := scene.writes + 1 } watch total standing.tracker
              [standing.read + piece.length] := by
  rw [writePiece, Surroundings.attempt_bind_eq_ok_iff]
  constructor
  · rintro ⟨⟨front, middle⟩, _, unpacked, ok⟩
    obtain ⟨same, rfl⟩ := Prod.mk.inj unpacked
    obtain ⟨_, _, appended, ok⟩ := Surroundings.attempt_bind_eq_ok_iff.mp ok
    obtain ⟨free, rfl⟩ := (attempt_append_eq_ok_iff vacant here).mp appended
    obtain ⟨_, _, notified, ok⟩ := Surroundings.attempt_bind_eq_ok_iff.mp ok
    obtain ⟨follows, rfl, rfl⟩ := attempt_notify_eq_ok_iff.mp notified
    cases ok
    exact ⟨free, follows, front, middle, same, rfl, rfl⟩
  · rintro ⟨free, follows, front, middle, same, rfl, rfl⟩
    have appended : surroundings.attempt (Files.append file front) scene = _ :=
      (attempt_append_eq_ok_iff vacant here).mpr ⟨free, rfl⟩
    refine ⟨(front, middle), scene, Prod.ext same rfl, ?_⟩
    refine Surroundings.attempt_bind_eq_ok_iff.mpr ⟨(), _, appended, ?_⟩
    exact Surroundings.attempt_bind_eq_ok_iff.mpr
      ⟨_, _, attempt_notify_eq_ok_iff.mpr ⟨follows, rfl, rfl⟩, rfl⟩

/-- **One step**: a piece with bytes is unpacked, written and told of, and the rest goes on. -/
theorem attempt_writePieces_filled (vacant : tree.Vacant file location)
    (here : scene.tree = tree.put location (.file written mode)) (filled : piece.isEmpty = false) :
    surroundings.attempt (writePieces job watch file total (.ok piece :: rest) standing) scene
        = (.ok done, later)
      ↔ surroundings.stop scene.looks = false ∧ surroundings.refusals.write scene.writes = none
        ∧ surroundings.Follows watch scene.calls.length 1
        ∧ ∃ front middle, unpack standing.stream piece = .ok (front, middle)
          ∧ surroundings.attempt (writePieces job watch file total rest
                ⟨standing.read + piece.length, middle,
                  watch.tracker total standing.tracker [standing.read + piece.length]⟩)
              (Scene.told { scene with
                tree := tree.put location
                  (.file (written ++ front) (FileTree.modeWith tree.privileged front mode))
                looks := scene.looks + 1
                writes := scene.writes + 1 } watch total standing.tracker
                [standing.read + piece.length])
            = (.ok done, later) := by
  rw [attempt_writePieces_cons, filled]
  refine and_congr_right fun _ => ?_
  have there : Scene.tree { scene with looks := scene.looks + 1 }
      = tree.put location (.file written mode) := here
  simp only [Bool.false_eq_true, if_false]
  rw [Surroundings.attempt_bind_eq_ok_iff]
  simp only [attempt_writePiece_eq_ok_iff vacant there]
  constructor
  · rintro ⟨_, _, ⟨free, follows, front, middle, same, rfl, rfl⟩, ok⟩
    exact ⟨free, follows, front, middle, same, ok⟩
  · rintro ⟨free, follows, front, middle, same, ok⟩
    exact ⟨_, _, ⟨free, follows, front, middle, same, rfl, rfl⟩, ok⟩

/-- The scene after pieces have been written. -/
def afterPieces (scene : Scene) (watch : Watch) (total : Nat) (tracker : PercentTracker)
    (read : Nat) (pieces : List Bytes) (tree : FileTree) : Scene :=
  Scene.told { scene with
    tree
    looks := scene.looks + pieces.length
    writes := scene.writes + (countsAfter read pieces).length } watch total tracker
    (countsAfter read pieces)

theorem afterPieces_nil {tracker : PercentTracker} {read : Nat} :
    afterPieces scene watch total tracker read [] tree = { scene with tree } := by
  unfold afterPieces countsAfter
  rw [Scene.told_nil]
  rfl

theorem afterPieces_cons_of_empty {pieces : List Bytes} {tracker : PercentTracker} {read : Nat} :
    afterPieces scene watch total tracker read ([] :: pieces) tree
      = afterPieces { scene with looks := scene.looks + 1 } watch total tracker read pieces
          tree := by
  have counts : countsAfter read ([] :: pieces) = countsAfter read pieces := rfl
  unfold afterPieces
  rw [counts]
  congr 1
  simp [Nat.add_assoc, Nat.add_comm 1]

theorem afterPieces_cons_of_filled {pieces : List Bytes} {tracker : PercentTracker} {read : Nat}
    {between : FileTree} (filled : piece.isEmpty = false) :
    afterPieces scene watch total tracker read (piece :: pieces) tree
      = afterPieces (Scene.told { scene with
            tree := between, looks := scene.looks + 1, writes := scene.writes + 1 } watch total
          tracker [read + piece.length]) watch total
          (watch.tracker total tracker [read + piece.length])
          (read + piece.length) pieces tree := by
  unfold afterPieces
  rw [countsAfter_cons_of_filled filled, Scene.told_append]
  congr 1
  simp [Scene.told, Nat.add_assoc, Nat.add_comm 1]

/-- Nothing has arrived but pieces, and everything lets them be written behind what is in a draft;
and how things stand after them. -/
def Written (surroundings : Surroundings) (watch : Watch) (total : Nat) (tree : FileTree)
    (location : Location) (written : Bytes) (mode : Nat) (scene : Scene) (standing : Standing)
    (arrivals : List (Except Failure Bytes)) (done : Standing) (later : Scene) : Prop :=
  ∃ pieces bytes last, arrivals = pieces.map .ok
    ∧ Received surroundings watch scene standing.read standing.stream pieces bytes last
    ∧ done = ⟨standing.read + pieces.flatten.length, last,
        watch.tracker total standing.tracker (countsAfter standing.read pieces)⟩
    ∧ later = afterPieces scene watch total standing.tracker standing.read pieces
        (tree.put location
          (.file (written ++ bytes) (FileTree.modeWith tree.privileged bytes mode)))

theorem written_nil_iff (here : scene.tree = tree.put location (.file written mode)) :
    Written surroundings watch total tree location written mode scene standing [] done later
      ↔ done = standing ∧ later = scene := by
  have stays : Standing.mk (standing.read + 0) standing.stream
      (watch.tracker total standing.tracker []) = standing := by cases watch <;> rfl
  have unchanged : afterPieces scene watch total standing.tracker standing.read []
      (tree.put location (.file (written ++ []) (FileTree.modeWith tree.privileged [] mode)))
        = scene := by
    rw [afterPieces_nil, List.append_nil]
    show { scene with tree := tree.put location (.file written mode) } = scene
    rw [← here]
  constructor
  · rintro ⟨pieces, bytes, last, same, received, rfl, rfl⟩
    obtain rfl : pieces = [] := List.map_eq_nil_iff.mp same.symm
    obtain ⟨rfl, rfl⟩ := received_nil_iff.mp received
    exact ⟨stays, unchanged⟩
  · rintro ⟨rfl, rfl⟩
    exact ⟨[], [], done.stream, rfl, received_nil_iff.mpr ⟨rfl, rfl⟩, stays.symm, unchanged.symm⟩

theorem written_cons_empty_iff :
    Written surroundings watch total tree location written mode scene standing (.ok [] :: rest) done
        later
      ↔ surroundings.stop scene.looks = false
        ∧ Written surroundings watch total tree location written mode
          { scene with looks := scene.looks + 1 } standing rest done later := by
  constructor
  · rintro ⟨pieces, bytes, last, same, received, rfl, rfl⟩
    obtain ⟨first, pieces, rfl, one, rfl⟩ := List.map_eq_cons_iff.mp same.symm
    cases one
    obtain ⟨going, received⟩ := received_cons_of_empty.mp received
    exact ⟨going, pieces, bytes, last, rfl, received, rfl, afterPieces_cons_of_empty⟩
  · rintro ⟨going, pieces, bytes, last, rfl, received, rfl, rfl⟩
    exact ⟨[] :: pieces, bytes, last, rfl, received_cons_of_empty.mpr ⟨going, received⟩, rfl,
      afterPieces_cons_of_empty.symm⟩

theorem written_cons_filled_iff (filled : piece.isEmpty = false) :
    Written surroundings watch total tree location written mode scene standing (.ok piece :: rest)
        done later
      ↔ surroundings.stop scene.looks = false ∧ surroundings.refusals.write scene.writes = none
        ∧ surroundings.Follows watch scene.calls.length 1
        ∧ ∃ front middle, unpack standing.stream piece = .ok (front, middle)
          ∧ Written surroundings watch total tree location (written ++ front)
              (FileTree.modeWith tree.privileged front mode)
              (Scene.told { scene with
                tree := tree.put location
                  (.file (written ++ front) (FileTree.modeWith tree.privileged front mode))
                looks := scene.looks + 1
                writes := scene.writes + 1 } watch total standing.tracker
                [standing.read + piece.length])
              ⟨standing.read + piece.length, middle,
                watch.tracker total standing.tracker [standing.read + piece.length]⟩
              rest done later := by
  constructor
  · rintro ⟨pieces, bytes, last, same, received, rfl, rfl⟩
    obtain ⟨first, pieces, rfl, one, rfl⟩ := List.map_eq_cons_iff.mp same.symm
    cases one
    obtain ⟨going, free, follows, front, middle, back, unpacked, rfl, others⟩ :=
      (received_cons_of_filled total standing.tracker filled).mp received
    refine ⟨going, free, follows, front, middle, unpacked, pieces, back, last, rfl, ?_, ?_, ?_⟩
    · exact ⟨others.going, others.writable, others.follows, others.unpacks⟩
    · rw [countsAfter_cons_of_filled filled, Watch.tracker_append, List.flatten_cons,
        List.length_append, Nat.add_assoc]
    · rw [afterPieces_cons_of_filled filled, List.append_assoc, FileTree.modeWith_append]
  · rintro ⟨going, free, follows, front, middle, unpacked, pieces, back, last, rfl, received, rfl,
      rfl⟩
    refine ⟨piece :: pieces, front ++ back, last, rfl, ?_, ?_, ?_⟩
    · exact (received_cons_of_filled total standing.tracker filled).mpr
        ⟨going, free, follows, front, middle, back, unpacked, rfl,
          ⟨received.going, received.writable, received.follows, received.unpacks⟩⟩
    · rw [countsAfter_cons_of_filled filled, Watch.tracker_append, List.flatten_cons,
        List.length_append, Nat.add_assoc]
    · rw [afterPieces_cons_of_filled filled, List.append_assoc, FileTree.modeWith_append]

/-- **The whole run**: pieces are written exactly when nothing arrives but pieces and everything
lets them be written; then the draft holds what they unpack to. -/
theorem attempt_writePieces_eq_ok_iff {arrivals : List (Except Failure Bytes)}
    (vacant : tree.Vacant file location)
    (here : scene.tree = tree.put location (.file written mode)) :
    surroundings.attempt (writePieces job watch file total arrivals standing) scene
        = (.ok done, later)
      ↔ Written surroundings watch total tree location written mode scene standing arrivals done
          later := by
  -- the draft and the standing change with every piece, so all of them are general
  induction arrivals generalizing scene standing written mode with
  | nil =>
    rw [written_nil_iff here]
    constructor
    · intro ok
      cases ok
      exact ⟨rfl, rfl⟩
    · rintro ⟨rfl, rfl⟩
      rfl
  | cons arrival rest ih =>
    cases arrival with
    | error failure =>
      constructor
      · intro ok
        cases ok
      · rintro ⟨pieces, _, _, same, _⟩
        cases pieces <;> simp at same
    | ok piece =>
      by_cases filled : piece.isEmpty = true
      · obtain rfl : piece = [] := List.isEmpty_iff.mp filled
        rw [attempt_writePieces_empty, written_cons_empty_iff]
        exact and_congr_right fun _ => ih here
      · have filled : piece.isEmpty = false := by simpa using filled
        rw [attempt_writePieces_filled vacant here filled, written_cons_filled_iff filled]
        refine and_congr_right fun _ => and_congr_right fun _ => and_congr_right fun _ => ?_
        exact exists_congr fun front => exists_congr fun middle => and_congr_right fun _ => ih rfl

end Writing

end Download

end AssetFetch
