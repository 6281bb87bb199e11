/-
**How a body is cut does not matter.**

A body may arrive in any pieces. Two downloads of one body that is cut in two ways are in the same
world until the writing begins, and again when it has succeeded. Where the decompression fails, what
was written until then depends on the pieces, but it is in the new file alone, which is removed.

* `attempt_writePieces_of_uncancelled`: what the writing of pieces comes to, by the whole body;
* `comeOutAlike_writePieces`, `comeOutAlike_receive`, `comeOutAlike_deliver`: each part of a
  download comes out alike;
* `comeOutAlike_deliverOrClear`, `attempt_deliverOrClear_eq`: what is left of it after a failure;
* `chunking_independent`: **two downloads of one body come out alike**, and leave the same files if
  the new one can be removed.
-/

import AssetFetch.Proofs.Download.Unpacking
import AssetFetch.Proofs.SideBySide

namespace AssetFetch

open AssetFetch.Text

namespace Download

variable {file : Path} {one two world later : World}

/-! ### Clearing up -/

section Clearing

/-- **Where the new file can be removed, what it holds makes no difference.** -/
theorem attempt_clear_eq (differ : DifferAt file one two) (removable : one.faults.remove = none) :
    one.attempt (clear file) = two.attempt (clear file) := by
  have removed : one.attempt (Files.remove file) = two.attempt (Files.remove file) :=
    differ.onFile_remove removable
  unfold clear Files.removeIfPresent
  rw [World.attempt_orElse, World.attempt_orElse, World.attempt_orElse, World.attempt_orElse,
    removed]

theorem attempt_clear_of_refused {refusal : Failure}
    (refused : world.faults.remove = some refusal) :
    world.attempt (clear file)
      = if refusal.isNotFound then (.ok (), world)
        else if refusal.isSystem then
          world.attempt (log .warning logger
            ("Failed to remove temp file " ++ file.text ++ ": " ++ refusal.message))
        else (.error refusal, world) := by
  have failed : world.attempt (Files.remove file) = (.error refusal, world) := by
    show world.onFile (.remove file) = _
    simp only [World.onFile, refused]
    rfl
  unfold clear Files.removeIfPresent
  rw [World.attempt_orElse, World.attempt_orElse, failed]
  by_cases absent : refusal.isNotFound = true
  · simp only [if_pos absent]
    rfl
  · simp only [if_neg absent]
    show world.attempt (if refusal.isSystem = true then _ else throw refusal) = _
    split <;> rfl

/-- **A failure after the clearing is the same**, and where the new file could not be removed, what
it holds is the only difference still. -/
theorem comeOutAlike_clear_throw (differ : DifferAt file one two) (failure : Failure) :
    ComeOutAlike file (one.attempt (do clear file; throw failure : Action Unit))
      (two.attempt (do clear file; throw failure : Action Unit)) := by
  rw [World.attempt_bind, World.attempt_bind]
  cases refused : one.faults.remove with
  | none =>
    rw [attempt_clear_eq differ refused]
    exact .same _
  | some refusal =>
    rw [attempt_clear_of_refused refused, attempt_clear_of_refused (differ.faults_eq ▸ refused)]
    by_cases absent : refusal.isNotFound = true
    · simp only [if_pos absent]
      exact .failed failure differ
    · by_cases system : refusal.isSystem = true
      · simp only [if_neg absent, if_pos system, World.attempt_log]
        exact .failed failure (differ.log _)
      · simp only [if_neg absent, if_neg system]
        exact .failed refusal differ

end Clearing

/-! ### Writing the pieces -/

section Writing

variable {job : Download} {total : Nat} {tree : FileTree} {location : Location} {content : Bytes}
  {mode : Nat} {stream : Option Gzip.Stream} {start rest : Bytes} {failure : Failure}

/-- The files with bytes behind what a new file holds. -/
def grown (tree : FileTree) (location : Location) (content bytes : Bytes) (mode : Nat) : FileTree :=
  tree.put location (.file (content ++ bytes) (FileTree.modeWith tree.privileged bytes mode))

theorem unpack_some_eq_error_iff {stream : Gzip.Stream} :
    unpack (some stream) start = .error failure
      ↔ ∃ fault, stream.feed start = .error fault ∧ failure = .gzip fault := by
  simp only [unpack]
  split
  · rename_i fault fed
    simp [fed, eq_comm]
  · rename_i next fed
    simp [fed]

/-- **Unpacking fails where it fails in the first part**, or in the second after the first. -/
theorem unpack_append_eq_error_iff :
    unpack stream (start ++ rest) = .error failure
      ↔ unpack stream start = .error failure
        ∨ ∃ front middle, unpack stream start = .ok (front, middle)
          ∧ unpack middle rest = .error failure := by
  cases stream with
  | none => simp [unpack]
  | some stream =>
    rw [unpack_some_eq_error_iff, unpack_some_eq_error_iff, Gzip.Stream.feed_append]
    cases fed : stream.feed start with
    | error fault =>
      have stuck : ∀ front middle, unpack (some stream) start ≠ .ok (front, middle) := by
        intro front middle unpacked
        obtain ⟨next, other, _⟩ := unpack_some_eq_ok_iff.mp unpacked
        rw [fed] at other
        cases other
      simp [stuck, bind, Except.bind]
    | ok next =>
      simp [unpack_some_eq_ok_iff, fed, unpack_some_eq_error_iff, bind, Except.bind]

theorem attempt_append (accepts : tree.Accepts file location)
    (here : world.tree = tree.put location (.file content mode)) (bytes : Bytes) :
    world.attempt (Files.append file bytes)
      = (.ok (), world.withTree (grown tree location content bytes mode)) := by
  show world.changing [file] (world.tree.append file bytes) = _
  rw [here, accepts.append_put]
  rfl

/-- Where nobody follows, a piece fails only if it cannot be unpacked. -/
theorem attempt_writePiece_of_nobody (total : Nat) (standing : Standing)
    (accepts : tree.Accepts file location)
    (here : world.tree = tree.put location (.file content mode)) (piece : Bytes) :
    world.attempt (writePiece .nobody file total standing piece)
      = match unpack standing.stream piece with
        | .error failure => (.error failure, world)
        | .ok (bytes, stream) =>
          (.ok ⟨standing.read + piece.length, stream, standing.tracker⟩,
            world.withTree (grown tree location content bytes mode)) := by
  unfold writePiece
  cases unpack standing.stream piece with
  | error failure => rfl
  | ok both =>
    rw [World.attempt_bind_of_ok (World.attempt_ofExcept (.ok both) world),
      World.attempt_bind_of_ok (attempt_append accepts here both.1)]
    rfl

/-- **One piece** is unpacked and written behind what is there; one without bytes unpacks to nothing
and leaves the file as it is. -/
theorem attempt_writePieces_cons_of_uncancelled (job : Download) (total : Nat)
    (standing : Standing) (going : world.cancelled = false) (accepts : tree.Accepts file location)
    (here : world.tree = tree.put location (.file content mode)) (piece : Bytes)
    (others : List (Except Failure Bytes)) :
    world.attempt (writePieces job .nobody file total (.ok piece :: others) standing)
      = match unpack standing.stream piece with
        | .error failure => (.error failure, world)
        | .ok (bytes, stream) =>
          (world.withTree (grown tree location content bytes mode)).attempt
            (writePieces job .nobody file total others
              ⟨standing.read + piece.length, stream, standing.tracker⟩) := by
  have looked : world.attempt isCancelled = (.ok false, world) :=
    congrArg (fun stop : Bool => ((.ok stop : Except Failure Bool), world)) going
  rw [writePieces_cons, World.attempt_bind_of_ok looked]
  simp only [Bool.false_eq_true, if_false]
  by_cases empty : piece.isEmpty = true
  · obtain rfl : piece = [] := List.isEmpty_iff.mp empty
    have still : world.withTree (grown tree location content [] mode) = world := by
      rw [grown, List.append_nil]
      exact congrArg world.withTree here.symm
    rw [if_pos empty, unpack_nil]
    simp only [still]
    rfl
  · have written := attempt_writePiece_of_nobody total standing accepts here piece
    rw [if_neg empty]
    cases unpacked : unpack standing.stream piece with
    | error failure =>
      rw [unpacked] at written
      exact World.attempt_bind_of_error written
    | ok both =>
      rw [unpacked] at written
      exact World.attempt_bind_of_ok written

/-- **What the writing of pieces comes to**, by the whole body: where it can be unpacked the file
grows by its data, and where it cannot the writing fails with what is wrong with it, and something
has been written. -/
theorem attempt_writePieces_of_uncancelled (job : Download) (total : Nat) (standing : Standing)
    (going : world.cancelled = false) (accepts : tree.Accepts file location)
    (here : world.tree = tree.put location (.file content mode)) (pieces : List Bytes) :
    match unpack standing.stream pieces.flatten with
    | .error failure => ∃ left leftMode,
      world.attempt (writePieces job .nobody file total (pieces.map .ok) standing)
        = (.error failure, world.withTree (tree.put location (.file left leftMode)))
    | .ok (bytes, last) =>
      world.attempt (writePieces job .nobody file total (pieces.map .ok) standing)
        = (.ok ⟨standing.read + pieces.flatten.length, last, standing.tracker⟩,
          world.withTree (grown tree location content bytes mode)) := by
  -- the file and the standing change with every piece, so both are general
  induction pieces generalizing world standing content mode with
  | nil =>
    rw [List.flatten_nil, unpack_nil]
    simp only [grown, List.append_nil]
    exact congrArg (fun world : World => ((.ok standing : Except Failure Standing), world))
      (congrArg world.withTree here)
  | cons piece others ih =>
    have step := attempt_writePieces_cons_of_uncancelled job total standing going accepts here piece
      (others.map .ok)
    rw [List.flatten_cons, List.map_cons, step]
    cases first : unpack standing.stream piece with
    | error failure =>
      rw [unpack_append_eq_error_iff.mpr (.inl first)]
      exact ⟨content, mode, congrArg (Prod.mk _) (congrArg world.withTree here)⟩
    | ok both =>
      obtain ⟨front, middle⟩ := both
      have still : (world.withTree (grown tree location content front mode)).cancelled = false :=
        going
      have later := ih ⟨standing.read + piece.length, middle, standing.tracker⟩ still rfl
      simp only at later ⊢
      cases second : unpack middle others.flatten with
      | error failure =>
        rw [second] at later
        rw [unpack_append_eq_error_iff.mpr (.inr ⟨front, middle, first, second⟩)]
        exact later
      | ok both =>
        obtain ⟨back, last⟩ := both
        rw [second] at later
        rw [unpack_append_eq_ok_iff.mpr ⟨front, middle, back, first, second, rfl⟩]
        simp only [grown, List.append_assoc, ← FileTree.modeWith_append, Nat.add_assoc,
          List.length_append] at later ⊢
        exact later

/-- **The pieces of one body are written alike**, however it is cut. -/
theorem comeOutAlike_writePieces (job : Download) (total : Nat) (standing : Standing)
    (going : world.cancelled = false) (accepts : tree.Accepts file location)
    (here : world.tree = tree.put location (.file content mode)) {pieces others : List Bytes}
    (same : pieces.flatten = others.flatten) :
    ComeOutAlike file
      (world.attempt (writePieces job .nobody file total (pieces.map .ok) standing))
      (world.attempt (writePieces job .nobody file total (others.map .ok) standing)) := by
  have left := attempt_writePieces_of_uncancelled job total standing going accepts here pieces
  have right := attempt_writePieces_of_uncancelled job total standing going accepts here others
  rw [same] at left
  cases unpacked : unpack standing.stream others.flatten with
  | error failure =>
    rw [unpacked] at left right
    obtain ⟨left, leftMode, leftWritten⟩ := left
    obtain ⟨right, rightMode, rightWritten⟩ := right
    rw [leftWritten, rightWritten]
    exact .failed failure (.files world (accepts.differIn_put ..))
  | ok both =>
    rw [unpacked] at left right
    rw [left, right]
    exact .same _

/-- An operation with permission bits that succeeds changes nothing but the files. -/
theorem exists_of_withMode {path : Path} {wish : Given Int}
    {result : Int → Except FileFault FileTree}
    (done : world.withMode path wish result = (.ok (), later)) :
    ∃ wished after, result wished = .ok after ∧ later = world.withTree after := by
  have changed : ∀ wished, world.changing [path] (result wished) = (.ok (), later) →
      ∃ wished after, result wished = .ok after ∧ later = world.withTree after := by
    intro wished changed
    cases same : result wished with
    | error fault =>
      rw [same] at changed
      cases congrArg Prod.fst changed
    | ok after =>
      rw [same] at changed
      exact ⟨wished, after, same, (congrArg Prod.snd changed).symm⟩
  unfold World.withMode at done
  split at done
  · cases congrArg Prod.fst done
  · cases congrArg Prod.fst done
  · exact changed _ done
  · cases congrArg Prod.fst done
  · split at done
    · cases congrArg Prod.fst done
    · exact changed _ done

/-- A file that has been created is new, and nothing else differs. -/
theorem exists_of_attempt_create {wish : Given Int}
    (created : world.attempt (Files.create file wish) = (.ok (), later)) :
    ∃ location mode, world.tree.Vacant file location
      ∧ later = world.withTree (world.tree.put location (.file [] mode)) := by
  obtain ⟨wished, after, done, rfl⟩ := exists_of_withMode created
  obtain ⟨location, vacant, rfl⟩ := (FileTree.createNew_eq_ok_iff wished).mp done
  exact ⟨location, _, vacant, rfl⟩

/-- Setting permission bits leaves what the file holds. -/
theorem exists_of_attempt_setWished (vacant : tree.Vacant file location)
    (here : world.tree = tree.put location (.file content mode))
    (done : world.attempt (job.setWished file) = (.ok (), later)) :
    ∃ mode', later = world.withTree (tree.put location (.file content mode')) := by
  unfold setWished at done
  cases wish : job.mode.value? with
  | none =>
    rw [wish] at done
    exact ⟨mode, (congrArg Prod.snd done).symm.trans (congrArg world.withTree here)⟩
  | some wished =>
    rw [wish] at done
    replace done : world.onFile (.setMode file wished) = (.ok (), later) := done
    simp only [World.onFile] at done
    split at done
    · cases congrArg Prod.fst done
    · obtain ⟨bits, after, changed, rfl⟩ := exists_of_withMode done
      rw [here, vacant.setMode_put] at changed
      cases changed
      exact ⟨_, rfl⟩

/-- Closing a file does not fail here. -/
theorem attempt_whatever_close_file (action : Action Unit) (world : World) :
    world.attempt (action.whatever (Files.close file)) = world.attempt action := by
  refine (World.run_bind action.outcome _ world).trans ?_
  unfold World.attempt
  cases world.run action.outcome with
  | mk result later => cases result <;> rfl

/-- **The same body is written alike.** -/
theorem comeOutAlike_writeAll (going : world.cancelled = false) {pieces others : List Bytes}
    (same : pieces.flatten = others.flatten) :
    ComeOutAlike file (world.attempt (writeAll job .nobody file total (pieces.map .ok)))
      (world.attempt (writeAll job .nobody file total (others.map .ok))) := by
  refine .after fun _ created done => ?_
  obtain ⟨location, mode, vacant, rfl⟩ := exists_of_attempt_create done
  rw [attempt_whatever_close_file, attempt_whatever_close_file, writeBody_eq, writeBody_eq]
  refine .after fun _ ready done => ?_
  obtain ⟨mode, rfl⟩ := exists_of_attempt_setWished vacant rfl done
  refine .bind _ (comeOutAlike_writePieces _ _ _ ?_ vacant.accepts rfl same)
  exact going

theorem comeOutAlike_explain (differ : DifferAt file one two) (failure : Failure) :
    ComeOutAlike file (one.attempt (explain job file failure))
      (two.attempt (explain job file failure)) := by
  unfold explain
  split
  · exact comeOutAlike_log_throw differ ..
  · exact comeOutAlike_log_throw differ ..
  · exact comeOutAlike_log_throw differ ..
  · exact .failed failure differ

end Writing

/-! ### The response -/

section Responding

variable {job : Download} {downloader : Downloader} {total : Nat} {status : Int}
  {headers : Headers} {codec : Codec} {pieces others : List Bytes}

/-- A response whose body arrives in pieces. -/
def inPieces (status : Int) (headers : Headers) (codec : Codec) (pieces : List Bytes) : Response :=
  ⟨status, headers, .pieces (pieces.map .ok), codec⟩

theorem gather_map_ok (pieces : List Bytes) : gather (pieces.map .ok) = .ok pieces.flatten := by
  induction pieces with
  | nil => rfl
  | cons piece rest ih => simp [gather, ih, Except.map]

/-- The text of a body does not depend on its pieces. -/
theorem text_inPieces (same : pieces.flatten = others.flatten) :
    (inPieces status headers codec pieces).text = (inPieces status headers codec others).text := by
  simp only [Response.text, Response.bytes, inPieces, gather_map_ok, same]

/-- **The same refusal**: it says what the body says. -/
theorem refused_inPieces (same : pieces.flatten = others.flatten) :
    refused job (inPieces status headers codec pieces)
      = refused job (inPieces status headers codec others) := by
  unfold refused
  rw [text_inPieces same]
  rfl

theorem cancelled_log (world : World) (record : LogLine) :
    (world.log record).cancelled = world.cancelled := by
  unfold World.log World.toConsole World.toLogFile
  simp only
  repeat' split
  all_goals rfl

/-- **The same response is received alike**, accepted or refused. -/
theorem comeOutAlike_receive (going : world.cancelled = false)
    (same : pieces.flatten = others.flatten) :
    ComeOutAlike file
      (world.attempt
        (receive job .nobody file downloader (.ok (inPieces status headers codec pieces))))
      (world.attempt
        (receive job .nobody file downloader (.ok (inPieces status headers codec others)))) := by
  refine .whatever_close ?_
  by_cases refusal : (inPieces status headers codec pieces).isRefusal = true
  · have other : (inPieces status headers codec others).isRefusal = true := refusal
    rw [if_pos refusal, if_pos other, refused_inPieces same]
    exact .same _
  · have other : ¬ (inPieces status headers codec others).isRefusal = true := refusal
    rw [if_neg refusal, if_neg other]
    refine .after fun total sized announced => ?_
    obtain rfl : world = sized := congrArg Prod.snd announced
    refine .after fun _ logged done => ?_
    rw [World.attempt_log] at done
    obtain rfl : world.log _ = logged := congrArg Prod.snd done
    refine .orElse (comeOutAlike_writeAll ((cancelled_log ..).trans going) same) ?_
    exact fun failure one two differ => comeOutAlike_explain differ failure

/-- The world with a response that comes next. -/
def offering (world : World) (response : Response) : World :=
  { world with script := .ok response :: world.script }

/-- **The same file is fetched alike.** -/
theorem comeOutAlike_deliver (job : Download) (downloader : Downloader) (file destination : Path)
    (status : Int) (headers : Headers) (codec : Codec) (going : world.cancelled = false)
    (same : pieces.flatten = others.flatten) :
    ComeOutAlike file
      ((offering world (inPieces status headers codec pieces)).attempt
        (deliver job downloader .nobody file destination))
      ((offering world (inPieces status headers codec others)).attempt
        (deliver job downloader .nobody file destination)) := by
  -- both are in the same world once the response is there
  have sent : ∀ response, (offering world response).attempt
      (.ofProgram (send (job.request downloader)).outcome)
      = (.ok (.ok response), { world with
          requests := world.requests ++ [job.request downloader]
          closed := world.closed ++ [false] }) := fun _ => rfl
  refine .bind _ ?_
  rw [fetch_eq, World.attempt_bind_of_ok (sent _), World.attempt_bind_of_ok (sent _)]
  exact comeOutAlike_receive going same

/-- **The same file is delivered or cleared away alike**: only where it cannot be removed may what
it holds differ, -/
theorem comeOutAlike_deliverOrClear (job : Download) (downloader : Downloader)
    (file destination : Path) (status : Int) (headers : Headers) (codec : Codec)
    (going : world.cancelled = false)
    (same : pieces.flatten = others.flatten) :
    ComeOutAlike file
      ((offering world (inPieces status headers codec pieces)).attempt
        (deliverOrClear job downloader .nobody file destination))
      ((offering world (inPieces status headers codec others)).attempt
        (deliverOrClear job downloader .nobody file destination)) :=
  .orElse (comeOutAlike_deliver _ _ _ _ _ _ _ going same) fun failure _ _ differ =>
    comeOutAlike_clear_throw differ failure

/-- and where it can be removed nothing differs. -/
theorem attempt_deliverOrClear_eq {destination : Path} (going : world.cancelled = false)
    (removable : world.faults.remove = none) (same : pieces.flatten = others.flatten) :
    (offering world (inPieces status headers codec pieces)).attempt
        (deliverOrClear job downloader .nobody file destination)
      = (offering world (inPieces status headers codec others)).attempt
        (deliverOrClear job downloader .nobody file destination) := by
  have alike := comeOutAlike_deliver job downloader file destination status headers codec going same
  have kept := World.faults_run
    (deliver job downloader .nobody file destination).outcome
    (offering world (inPieces status headers codec pieces))
  unfold deliverOrClear
  rw [World.attempt_orElse, World.attempt_orElse]
  change (World.attempt (deliver job downloader .nobody file destination) _).2.faults = _ at kept
  generalize World.attempt (deliver job downloader .nobody file destination)
    (offering world (inPieces status headers codec pieces)) = left at alike kept ⊢
  generalize World.attempt (deliver job downloader .nobody file destination)
    (offering world (inPieces status headers codec others)) = right at alike ⊢
  cases alike with
  | same => rfl
  | failed failure differ =>
    simp only [World.attempt_bind]
    rw [attempt_clear_eq differ (kept ▸ removable)]

/-- A download without a path for the destination or for the new file fails at once; any other one
is the delivery and a line in the log. -/
theorem attempt_download_cases (downloader : Downloader) (job : Download) (watch : Watch)
    (name : String) :
    (∃ failure, ∀ world : World, world.name = name →
        world.attempt (download downloader job watch) = (.error failure, world))
      ∨ ∃ destination file, job.destination.path = .ok destination
        ∧ temporaryPath destination name = .ok file
        ∧ ∀ world : World, world.name = name → world.attempt (download downloader job watch)
          = world.attempt (do
            deliverOrClear job downloader watch file destination
            log .info logger ("Downloaded " ++ job.url.shown ++ " to " ++ destination.text)
            return destination) := by
  cases path : job.destination.path with
  | error failure =>
    refine .inl ⟨failure, fun world _ => ?_⟩
    rw [download_eq, path, World.attempt_bind_of_error (World.attempt_ofExcept ..)]
  | ok destination =>
    have named : ∀ world : World, world.name = name →
        world.attempt randomName = (.ok name, world) := by
      rintro world rfl
      rfl
    cases fresh : temporaryPath destination name with
    | error failure =>
      refine .inl ⟨failure, fun world same => ?_⟩
      rw [download_eq, path, World.attempt_bind_of_ok (World.attempt_ofExcept ..),
        World.attempt_bind_of_ok (named world same), fresh,
        World.attempt_bind_of_error (World.attempt_ofExcept ..)]
    | ok file =>
      refine .inr ⟨destination, file, rfl, fresh, fun world same => ?_⟩
      rw [download_eq, path, World.attempt_bind_of_ok (World.attempt_ofExcept ..),
        World.attempt_bind_of_ok (named world same), fresh,
        World.attempt_bind_of_ok (World.attempt_ofExcept ..)]

/-- A download that nobody follows, where the body arrives in some pieces. -/
def downloadInPieces (world : World) (downloader : Downloader) (job : Download) (status : Int)
    (headers : Headers) (codec : Codec) (pieces : List Bytes) : Except Failure Path × World :=
  (offering world (inPieces status headers codec pieces)).attempt (download downloader job .nobody)

/-- **Two downloads of one body come out alike**, however it is cut: both return the same, or both
fail with the same failure, and they leave the same files, if the new file can be removed. If it
cannot, the files differ in nothing but what that one holds. -/
theorem chunking_independent (downloader : Downloader) (job : Download) (status : Int)
    (headers : Headers) (codec : Codec) (going : world.cancelled = false)
    (same : pieces.flatten = others.flatten) :
    (downloadInPieces world downloader job status headers codec pieces).1
        = (downloadInPieces world downloader job status headers codec others).1
      ∧ (world.faults.remove = none →
        (downloadInPieces world downloader job status headers codec pieces).2.tree
          = (downloadInPieces world downloader job status headers codec others).2.tree)
      ∧ ((downloadInPieces world downloader job status headers codec pieces).2.tree
          = (downloadInPieces world downloader job status headers codec others).2.tree
        ∨ ∃ destination file, job.destination.path = .ok destination
          ∧ temporaryPath destination world.name = .ok file
          ∧ FileTree.DifferIn file
            (downloadInPieces world downloader job status headers codec pieces).2.tree
            (downloadInPieces world downloader job status headers codec others).2.tree) := by
  unfold downloadInPieces
  rcases attempt_download_cases downloader job .nobody world.name with
    ⟨failure, failed⟩ | ⟨destination, file, path, fresh, delivered⟩
  · rw [failed (offering _ _) rfl, failed (offering _ _) rfl]
    exact ⟨rfl, fun _ => rfl, .inl rfl⟩
  · rw [delivered (offering _ _) rfl, delivered (offering _ _) rfl]
    have alike := ComeOutAlike.bind (fun _ => do
        log .info logger ("Downloaded " ++ job.url.shown ++ " to " ++ destination.text)
        return destination)
      (comeOutAlike_deliverOrClear job downloader file destination status headers codec going same)
    refine ⟨alike.fst_eq, fun removable => ?_, ?_⟩
    · rw [World.attempt_bind, World.attempt_bind, attempt_deliverOrClear_eq going removable same]
    · exact alike.tree_eq_or_differIn.imp_right fun differ =>
        ⟨destination, file, path, fresh, differ⟩

/-- The usual way to read a body. -/
def utf8 : Codec := .utf8 Json.Depths.usual.read

/-- Headers that announce a size. -/
def announcing (size : Nat) : Headers :=
  [("content-length", .text (LooseText.ofString (natText size)))]

/-- A member that is cut within its header, and not at all. -/
theorem chunking_independent_stored :
    World.empty.cancelled = false
      ∧ [storedMember.take 5, [], storedMember.drop 5].flatten = [storedMember].flatten
      ∧ (downloadInPieces .empty .standard packed 200 (announcing storedMember.length) utf8
            [storedMember.take 5, [], storedMember.drop 5]).1
          = (downloadInPieces .empty .standard packed 200 (announcing storedMember.length) utf8
            [storedMember]).1
      ∧ World.empty.faults.remove = none
      ∧ (downloadInPieces .empty .standard packed 200 (announcing storedMember.length) utf8
            [storedMember.take 5, [], storedMember.drop 5]).2.tree
          = (downloadInPieces .empty .standard packed 200 (announcing storedMember.length) utf8
            [storedMember]).2.tree := by
  have going : World.empty.cancelled = false := rfl
  have same : ([storedMember.take 5, [], storedMember.drop 5] : List Bytes).flatten
      = ([storedMember] : List Bytes).flatten := by
    decide
  have alike :=
    chunking_independent .standard packed 200 (announcing storedMember.length) utf8 going same
  exact ⟨going, same, alike.1, rfl, alike.2.1 rfl⟩

end Responding

end Download

end AssetFetch
