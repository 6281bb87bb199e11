/-
**When writing succeeds.**

* `contentOf`: what a body comes to;
* `toldCounts`, `finalMode`: what the follower is told of a whole body, and the permission bits of
  the file at the end;
* `Fills`: everything that lets a body be written, and nothing else;
* `attempt_writeAll_eq_ok_iff`, `attempt_fetch_eq_ok_iff`: the request and the writing succeed
  exactly then, and what the scene is after them.
-/

import AssetFetch.Proofs.ContentLength
import AssetFetch.Proofs.Download.Body

namespace AssetFetch

namespace Download

/-! ### What a body comes to -/

section Content

variable {job : Download} {body data : Bytes}

/-- What a body comes to: the data of its first member if it is to be unpacked. -/
def contentOf (gunzip : Bool) (body : Bytes) : Except Gzip.Fault Bytes :=
  if gunzip then (Gzip.Stream.start.feed body).map fun stream => stream.output.toList
  else .ok body

theorem contentOf_eq_ok_iff :
    contentOf job.gunzip body = .ok data
      ↔ ∃ last, unpack (Standing.start job).stream body = .ok (data, last) := by
  unfold contentOf Standing.start
  cases job.gunzip with
  | false => simp [unpack]
  | true =>
    simp only [if_true, unpack_some_eq_ok_iff]
    cases fed : Gzip.Stream.start.feed body with
    | error fault => simp [Except.map]
    | ok stream =>
      have empty : Gzip.Stream.start.output.toList = [] := rfl
      simp [Except.map, empty, eq_comm]

/-- The counts that a follower of a whole body is told: one for each piece with bytes, and one more
if nothing was announced. -/
def toldCounts (pieces : List Bytes) (total : Nat) : List Nat :=
  countsAfter 0 pieces ++ if total = 0 then [0] else []

/-- The permission bits of a file that nothing has been written to. -/
def firstMode : Given Int → Nat
  | .value mode => FileTree.modeBits mode
  | _ => FileTree.newMode FileTree.plainMode

/-- The permission bits of a file with all its data. -/
def finalMode (privileged : Bool) (wish : Given Int) (data : Bytes) : Nat :=
  FileTree.modeWith privileged data (firstMode wish)

end Content

/-! ### The parts of writing -/

section Parts

variable {surroundings : Surroundings} {scene later : Scene} {job : Download} {watch : Watch}
  {file : Path} {total : Nat} {tree : FileTree} {location : Location} {written : Bytes} {mode : Nat}
  {standing : Standing}

theorem attempt_create_eq_ok_iff {wish : Given Int} :
    surroundings.attempt (Files.create file wish) scene = (.ok (), later)
      ↔ surroundings.refusals.create = none ∧ ∃ wished location, wishedMode wish = some wished
        ∧ scene.tree.Vacant file location
        ∧ later = { scene with
            tree := scene.tree.put location (.file [] (FileTree.newMode wished)) } := by
  refine (attempt_file_eq_ok_iff (.create file wish) ()).trans ?_
  constructor
  · rintro ⟨after, created, rfl⟩
    obtain ⟨free, wished, location, wanted, vacant, rfl⟩ := onFile_create_eq_ok_iff.mp created
    exact ⟨free, wished, location, wanted, vacant, rfl⟩
  · rintro ⟨free, wished, location, wanted, vacant, rfl⟩
    exact ⟨_, onFile_create_eq_ok_iff.mpr ⟨free, wished, location, wanted, vacant, rfl⟩, rfl⟩

/-- The permission bits after the wished ones have been set, if any are wished. -/
def setBits (wish : Given Int) (mode : Nat) : Nat :=
  (wish.value?.map FileTree.modeBits).getD mode

/-- The permission bits are set exactly, if any are wished. -/
theorem attempt_setWished_eq_ok_iff (vacant : tree.Vacant file location)
    (here : scene.tree = tree.put location (.file written mode)) :
    surroundings.attempt (job.setWished file) scene = (.ok (), later)
      ↔ (∀ wished, job.mode.value? = some wished →
          surroundings.refusals.setMode = none ∧ wishedMode (.value wished) = some wished)
        ∧ later = { scene with
            tree := tree.put location (.file written (setBits job.mode mode)) } := by
  unfold setWished setBits
  cases job.mode.value? with
  | none =>
    simp only [Option.map_none, Option.getD_none, ← here]
    constructor
    · intro ok
      cases ok
      exact ⟨by simp, rfl⟩
    · rintro ⟨_, rfl⟩
      rfl
  | some wished =>
    simp only [Option.some.injEq, forall_eq', Option.map_some, Option.getD_some]
    refine (attempt_file_eq_ok_iff (.setMode file wished) ()).trans ?_
    constructor
    · rintro ⟨after, done, rfl⟩
      obtain ⟨free, wanted, rfl⟩ := (onFile_setMode_eq_ok_iff vacant here).mp done
      exact ⟨⟨free, wanted⟩, rfl⟩
    · rintro ⟨⟨free, wanted⟩, rfl⟩
      exact ⟨_, (onFile_setMode_eq_ok_iff vacant here).mpr ⟨free, wanted, rfl⟩, rfl⟩

theorem attempt_close_eq_ok_iff :
    surroundings.attempt (Files.close file) scene = (.ok (), later)
      ↔ surroundings.refusals.close = none ∧ later = scene :=
  attempt_settling_eq_ok_iff (.close file) trivial ()

/-- What is held back is written, and the disk is waited for. -/
theorem attempt_persist_eq_ok_iff :
    surroundings.attempt (persist file) scene = (.ok (), later)
      ↔ (surroundings.refusals.flush = none ∧ surroundings.refusals.sync = none)
        ∧ later = scene := by
  have flush : ∀ after, surroundings.attempt (Files.flush file) scene = (.ok (), after)
      ↔ surroundings.refusals.flush = none ∧ after = scene := fun _ =>
    attempt_settling_eq_ok_iff (.flush file) trivial ()
  have sync : surroundings.attempt (Files.sync file) scene = (.ok (), later)
      ↔ surroundings.refusals.sync = none ∧ later = scene :=
    attempt_settling_eq_ok_iff (.sync file) trivial ()
  rw [persist, Surroundings.attempt_bind_eq_ok_iff]
  constructor
  · rintro ⟨_, after, flushed, synced⟩
    obtain ⟨free, rfl⟩ := (flush after).mp flushed
    obtain ⟨last, rfl⟩ := sync.mp synced
    exact ⟨⟨free, last⟩, rfl⟩
  · rintro ⟨⟨free, last⟩, rfl⟩
    exact ⟨(), _, (flush _).mpr ⟨free, rfl⟩, sync.mpr ⟨last, rfl⟩⟩

/-- Nothing is missing, an empty announcement is told of, and the disk is waited for. -/
theorem attempt_conclude_eq_ok_iff :
    surroundings.attempt (conclude job watch file total standing) scene = (.ok (), later)
      ↔ total ≤ standing.read
        ∧ surroundings.Follows watch scene.calls.length (if total = 0 then [0] else []).length
        ∧ (surroundings.refusals.flush = none ∧ surroundings.refusals.sync = none)
        ∧ later = scene.told watch total standing.tracker (if total = 0 then [0] else []) := by
  unfold conclude
  by_cases short : standing.read < total
  · rw [if_pos short]
    constructor
    · intro ok
      cases ok
    · rintro ⟨enough, _⟩
      omega
  · rw [if_neg short]
    have enough : total ≤ standing.read := by omega
    by_cases nothing : total = 0
    · subst nothing
      simp only [beq_self_eq_true, if_true, enough, true_and, List.length_singleton]
      rw [Surroundings.attempt_bind_eq_ok_iff]
      constructor
      · rintro ⟨_, middle, told, synced⟩
        obtain ⟨_, _, notified, same⟩ := Surroundings.attempt_bind_eq_ok_iff.mp told
        obtain ⟨follows, _, rfl⟩ := attempt_notify_eq_ok_iff.mp notified
        cases same
        obtain ⟨free, rfl⟩ := attempt_persist_eq_ok_iff.mp synced
        exact ⟨follows, free, rfl⟩
      · rintro ⟨follows, free, rfl⟩
        have notified : surroundings.attempt (notify watch 0 0 standing.tracker) scene = _ :=
          attempt_notify_eq_ok_iff.mpr ⟨follows, rfl, rfl⟩
        exact ⟨(), _, Surroundings.attempt_bind_eq_ok_iff.mpr ⟨_, _, notified, rfl⟩,
          attempt_persist_eq_ok_iff.mpr ⟨free, rfl⟩⟩
    · simp only [nothing, beq_iff_eq, if_false, enough, true_and, List.length_nil, Scene.told_nil]
      rw [attempt_persist_eq_ok_iff]
      simp [Surroundings.Follows]

end Parts

/-! ### The whole of writing -/

section Whole

variable {surroundings : Surroundings} {scene later : Scene} {job : Download} {watch : Watch}
  {file : Path} {total : Nat} {arrivals : List (Except Failure Bytes)}

/-- Everything that lets a body be written into a new file, with what it comes to. -/
structure Fills (surroundings : Surroundings) (job : Download) (watch : Watch) (total : Nat)
    (pieces : List Bytes) (data : Bytes) : Prop where
  created : surroundings.refusals.create = none
  modeSet : job.mode.value? ≠ none → surroundings.refusals.setMode = none
  going : ∀ index < pieces.length, surroundings.stop index = false
  written : ∀ index < (countsAfter 0 pieces).length, surroundings.refusals.write index = none
  unpacked : contentOf job.gunzip pieces.flatten = .ok data
  enough : total ≤ pieces.flatten.length
  told : surroundings.Follows watch 0 (toldCounts pieces total).length
  flushed : surroundings.refusals.flush = none
  synced : surroundings.refusals.sync = none
  closed : surroundings.refusals.close = none

/-- The scene when some requests have been sent and nothing else has happened. -/
def sentOnly (tree : FileTree) (sent : Nat) : Scene := ⟨tree, sent, 0, 0, [], []⟩

/-- The scene when moreover a whole body has been written. -/
def allWritten (tree : FileTree) (sent : Nat) (watch : Watch) (total : Nat) (pieces : List Bytes) :
    Scene :=
  ⟨tree, sent, pieces.length, (countsAfter 0 pieces).length,
    watch.calls total (toldCounts pieces total),
    watch.reports total .start (toldCounts pieces total)⟩

theorem setBits_newMode {wish : Given Int} {wished : Int} (wanted : wishedMode wish = some wished) :
    setBits wish (FileTree.newMode wished) = firstMode wish := by
  cases wish with
  | absent =>
    cases wanted
    rfl
  | blank => cases wanted
  | value mode => rfl

theorem settable_iff {wished : Int} (wanted : wishedMode job.mode = some wished) :
    (∀ mode, job.mode.value? = some mode →
        surroundings.refusals.setMode = none ∧ wishedMode (.value mode) = some mode)
      ↔ (job.mode.value? ≠ none → surroundings.refusals.setMode = none) := by
  cases given : job.mode with
  | absent | blank => simp [Given.value?]
  | value mode =>
    have same : wishedMode (.value mode) = some mode := by
      rw [given] at wanted
      simp only [wishedMode] at wanted ⊢
      split at wanted
      · cases wanted
      · rename_i near
        rw [if_neg near]
    simp [Given.value?, same]

/-- The calls of a whole body are those of its pieces and the one for an empty announcement. -/
theorem follows_toldCounts_iff {pieces : List Bytes} {tree : FileTree} {sent : Nat} :
    surroundings.Follows watch 0 (toldCounts pieces total).length
      ↔ surroundings.Follows watch 0 (countsAfter 0 pieces).length
        ∧ surroundings.Follows watch
            (afterPieces (sentOnly tree sent) watch total .start 0 pieces tree).calls.length
            (if total = 0 then [0] else []).length := by
  cases watch with
  | nobody | percents => simp [Surroundings.Follows]
  | counts =>
    simp only [Surroundings.Follows, true_implies, toldCounts, List.length_append, Nat.zero_add,
      afterPieces, Scene.told, sentOnly, Watch.calls, List.length_map, List.nil_append]
    generalize (countsAfter 0 pieces).length = early
    generalize (if total = 0 then [0] else [] : List Nat).length = late
    constructor
    · intro follows
      exact ⟨fun index below => follows index (by omega),
        fun index below => follows (early + index) (by omega)⟩
    · rintro ⟨first, second⟩ index below
      by_cases soon : index < early
      · exact first index soon
      · have later := second (index - early) (by omega)
        rwa [show early + (index - early) = index by omega] at later

theorem told_afterPieces {pieces : List Bytes} {before after : FileTree} {sent : Nat} :
    (afterPieces (sentOnly before sent) watch total .start 0 pieces after).told watch total
        (watch.tracker total .start (countsAfter 0 pieces)) (if total = 0 then [0] else [])
      = allWritten after sent watch total pieces := by
  unfold afterPieces
  rw [← Scene.told_append]
  simp [Scene.told, allWritten, sentOnly, toldCounts]

/-- A new file is written exactly where everything lets it be, apart from its making and its
closing. -/
theorem attempt_writeBody_eq_ok_iff {tree : FileTree} {location : Location} {wished : Int}
    {sent : Nat} (vacant : tree.Vacant file location) (wanted : wishedMode job.mode = some wished)
    (created : surroundings.refusals.create = none) (closed : surroundings.refusals.close = none) :
    surroundings.attempt (writeBody job watch file total arrivals)
        (sentOnly (tree.put location (.file [] (FileTree.newMode wished))) sent)
        = (.ok (), later)
      ↔ ∃ pieces data, arrivals = pieces.map .ok ∧ Fills surroundings job watch total pieces data
        ∧ later = allWritten
            (tree.put location (.file data (finalMode tree.privileged job.mode data))) sent watch
            total pieces := by
  rw [writeBody_eq, Surroundings.attempt_bind_eq_ok_iff]
  constructor
  · rintro ⟨_, _, modeSet, ok⟩
    obtain ⟨settable, rfl⟩ := (attempt_setWished_eq_ok_iff vacant rfl).mp modeSet
    obtain ⟨done, _, wrote, ok⟩ := Surroundings.attempt_bind_eq_ok_iff.mp ok
    obtain ⟨pieces, data, last, rfl, received, rfl, rfl⟩ :=
      (attempt_writePieces_eq_ok_iff vacant rfl).mp wrote
    obtain ⟨enough, follows, ⟨flushed, synced⟩, rfl⟩ := attempt_conclude_eq_ok_iff.mp ok
    refine ⟨pieces, data, rfl, ?_, ?_⟩
    · exact {
        created
        modeSet := (settable_iff wanted).mp settable
        going := fun index below => by simpa [sentOnly] using received.going index below
        written := fun index below => by simpa [sentOnly] using received.writable index below
        unpacked := contentOf_eq_ok_iff.mpr ⟨last, received.unpacks⟩
        enough := by simpa [Standing.start] using enough
        told := follows_toldCounts_iff.mpr ⟨received.follows, follows⟩
        flushed
        synced
        closed }
    · rw [setBits_newMode wanted]
      exact told_afterPieces
  · rintro ⟨pieces, data, rfl, fills, rfl⟩
    obtain ⟨last, unpacked⟩ := contentOf_eq_ok_iff.mp fills.unpacked
    obtain ⟨follows, more⟩ := follows_toldCounts_iff.mp fills.told
    have modeSet : surroundings.attempt (job.setWished file)
        (sentOnly (tree.put location (.file [] (FileTree.newMode wished))) sent) = _ :=
      (attempt_setWished_eq_ok_iff vacant rfl).mpr ⟨(settable_iff wanted).mpr fills.modeSet, rfl⟩
    rw [setBits_newMode wanted] at modeSet
    have received : Received surroundings watch
        (sentOnly (tree.put location (.file [] (firstMode job.mode))) sent) 0
        (Standing.start job).stream pieces data last := {
      going := fun index below => by simpa [sentOnly] using fills.going index below
      writable := fun index below => by simpa [sentOnly] using fills.written index below
      follows
      unpacks := unpacked }
    have wrote : surroundings.attempt
        (writePieces job watch file total (pieces.map .ok) (.start job))
        (sentOnly (tree.put location (.file [] (firstMode job.mode))) sent) = _ :=
      (attempt_writePieces_eq_ok_iff vacant rfl).mpr
        ⟨pieces, data, last, rfl, received, rfl, rfl⟩
    refine ⟨(), _, modeSet, Surroundings.attempt_bind_eq_ok_iff.mpr ⟨_, _, wrote, ?_⟩⟩
    refine attempt_conclude_eq_ok_iff.mpr
      ⟨?_, more, ⟨fills.flushed, fills.synced⟩, told_afterPieces.symm⟩
    simpa [Standing.start] using fills.enough

/-- **A body is written exactly when everything lets it be**, and then the new file holds what the
body comes to. -/
theorem attempt_writeAll_eq_ok_iff {tree : FileTree} {sent : Nat} :
    surroundings.attempt (writeAll job watch file total arrivals) (sentOnly tree sent)
        = (.ok (), later)
      ↔ ∃ location wished pieces data, tree.Vacant file location ∧ wishedMode job.mode = some wished
        ∧ arrivals = pieces.map .ok ∧ Fills surroundings job watch total pieces data
        ∧ later = allWritten
            (tree.put location (.file data (finalMode tree.privileged job.mode data))) sent watch
            total pieces := by
  rw [writeAll, Surroundings.attempt_bind_eq_ok_iff]
  constructor
  · rintro ⟨_, middle, created, ok⟩
    obtain ⟨free, wished, location, wanted, vacant, rfl⟩ := attempt_create_eq_ok_iff.mp created
    obtain ⟨written, ok, ended⟩ := Surroundings.attempt_whatever_eq_ok_iff.mp ok
    obtain ⟨closed, rfl⟩ := attempt_close_eq_ok_iff.mp ended
    obtain ⟨pieces, data, rfl, fills, rfl⟩ :=
      (attempt_writeBody_eq_ok_iff vacant wanted free closed).mp ok
    exact ⟨location, wished, pieces, data, vacant, wanted, rfl, fills, rfl⟩
  · rintro ⟨location, wished, pieces, data, vacant, wanted, rfl, fills, rfl⟩
    have created : surroundings.attempt (Files.create file job.mode) (sentOnly tree sent) = _ :=
      attempt_create_eq_ok_iff.mpr ⟨fills.created, wished, location, wanted, vacant, rfl⟩
    refine ⟨(), _, created, Surroundings.attempt_whatever_eq_ok_iff.mpr
      ⟨_, ?_, attempt_close_eq_ok_iff.mpr ⟨fills.closed, rfl⟩⟩⟩
    exact (attempt_writeBody_eq_ok_iff vacant wanted fills.created fills.closed).mpr
      ⟨pieces, data, rfl, fills, rfl⟩

end Whole

/-! ### The response -/

section Response

variable {surroundings : Surroundings} {scene later : Scene} {tree : FileTree} {job : Download}
  {downloader : Downloader} {watch : Watch} {file : Path} {sent total : Nat}
  {arrivals : List (Except Failure Bytes)} {response : Response}

theorem attempt_fill_eq_ok_iff :
    surroundings.attempt (fill job watch file total arrivals) scene = (.ok (), later)
      ↔ surroundings.attempt (writeAll job watch file total arrivals) scene = (.ok (), later) := by
  refine Surroundings.attempt_orElse_eq_ok_iff fun failure now => ?_
  unfold explain
  split <;> exact ⟨_, rfl⟩

theorem attempt_accepted_eq_ok_iff :
    surroundings.attempt (accepted job downloader watch file response) scene = (.ok (), later)
      ↔ ∃ total, Announces response total
        ∧ surroundings.attempt
            (writeAll job watch file total (response.arrivals downloader.pieceSize)) scene
          = (.ok (), later) := by
  refine Surroundings.attempt_bind_eq_ok_iff.trans ?_
  constructor
  · rintro ⟨total, _, size, ok⟩
    obtain ⟨announced, rfl⟩ := Prod.mk.inj size
    obtain ⟨_, _, logged, ok⟩ := Surroundings.attempt_bind_eq_ok_iff.mp ok
    cases logged
    exact ⟨total, (contentLength_eq_ok_iff job.url).mp announced, attempt_fill_eq_ok_iff.mp ok⟩
  · rintro ⟨total, announced, ok⟩
    refine ⟨total, scene, Prod.ext ((contentLength_eq_ok_iff job.url).mpr announced) rfl, ?_⟩
    exact Surroundings.attempt_bind_eq_ok_iff.mpr ⟨(), scene, rfl, attempt_fill_eq_ok_iff.mpr ok⟩

theorem attempt_whatever_close {action : Action Unit} :
    surroundings.attempt (action.whatever (.ofProgram (perform .close))) scene
      = surroundings.attempt action scene := by
  rw [Surroundings.attempt_whatever]
  cases surroundings.attempt action scene with
  | mk result after => cases result <;> rfl

/-- A request goes out and meets the first reply that is left. -/
theorem attempt_send (request : Request) :
    surroundings.attempt (.ofProgram (send request).outcome) (Scene.start tree)
      = (.ok (surroundings.script.head?.getD (.error World.noMoreResponses)), sentOnly tree 1) := by
  rw [List.head?_eq_getElem?]
  rfl

theorem attempt_send_of_first {reply : Except Failure Response}
    (first : surroundings.script.head? = some reply) (request : Request) :
    surroundings.attempt (.ofProgram (send request).outcome) (Scene.start tree)
      = (.ok reply, sentOnly tree 1) := by
  rw [attempt_send, first, Option.getD_some]

theorem attempt_refused_ne_ok :
    surroundings.attempt (refused job response) scene ≠ (.ok (), later) := by
  intro ok
  obtain ⟨_, _, _, ok⟩ := Surroundings.attempt_bind_eq_ok_iff.mp ok
  cases ok

/-- **The request and the writing succeed exactly when** a response comes that is no refusal and
announces a size, the place for the new file is vacant, and everything lets the body be written. -/
theorem attempt_fetch_eq_ok_iff :
    surroundings.attempt (fetch job downloader watch file) (Scene.start tree) = (.ok (), later)
      ↔ ∃ response total location wished pieces data,
        surroundings.script.head? = some (.ok response) ∧ response.isRefusal = false
        ∧ Announces response total ∧ tree.Vacant file location ∧ wishedMode job.mode = some wished
        ∧ response.arrivals downloader.pieceSize = pieces.map .ok
        ∧ Fills surroundings job watch total pieces data
        ∧ later = allWritten
            (tree.put location (.file data (finalMode tree.privileged job.mode data))) 1 watch
            total pieces := by
  refine Surroundings.attempt_bind_eq_ok_iff.trans ?_
  constructor
  · rintro ⟨result, _, asked, ok⟩
    obtain ⟨answered, rfl⟩ := Prod.mk.inj ((attempt_send _).symm.trans asked)
    cases result with
    | error failure =>
      -- every way on from a failed request fails
      by_cases network : failure.isNetwork = true
      · simp only [network, if_true] at ok
        cases ok
      · simp only [network, Bool.false_eq_true, if_false] at ok
        cases ok
    | ok response =>
      have first : surroundings.script.head? = some (.ok response) := by
        cases head : surroundings.script.head? with
        | none => simp [head] at answered
        | some reply => simpa [head] using answered
      replace ok := attempt_whatever_close.symm.trans ok
      by_cases refusal : response.isRefusal = true
      · rw [if_pos refusal] at ok
        exact absurd ok attempt_refused_ne_ok
      · rw [if_neg refusal] at ok
        obtain ⟨total, announced, wrote⟩ := attempt_accepted_eq_ok_iff.mp ok
        obtain ⟨location, wished, pieces, data, vacant, wanted, arrived, fills, rfl⟩ :=
          attempt_writeAll_eq_ok_iff.mp wrote
        exact ⟨response, total, location, wished, pieces, data, first, by simpa using refusal,
          announced, vacant, wanted, arrived, fills, rfl⟩
  · rintro ⟨response, total, location, wished, pieces, data, first, accepted, announced, vacant,
      wanted, arrived, fills, rfl⟩
    refine ⟨.ok response, _, attempt_send_of_first first _, attempt_whatever_close.trans ?_⟩
    rw [accepted, if_neg Bool.false_ne_true]
    refine attempt_accepted_eq_ok_iff.mpr ⟨total, announced, ?_⟩
    exact attempt_writeAll_eq_ok_iff.mpr
      ⟨location, wished, pieces, data, vacant, wanted, arrived, fills, rfl⟩

end Response

end Download

end AssetFetch
