/-
**A download in a world with a log.**

* `Download.Fetched`, `exists_fetched`: what a fetch finds and leaves that succeeds, whatever the
  log file is, as long as the new file is not its name;
* `Landed`, `exists_landed`: **a download that succeeds leaves the destination with what the body
  comes to**, and the line about it does not spoil that;
* `confines_download_of_error`: **a download that fails keeps everything** but its own new file and
  the log.
-/

import AssetFetch.Proofs.Bare
import AssetFetch.Proofs.Fetching
import AssetFetch.Proofs.Settings.Replacing
import AssetFetch.Proofs.TemporaryPath

namespace AssetFetch

open AppPaths FileTree Text World

/-- What is done to one's own file is work on that. -/
theorem Effect.Owns.worksOn {file : Path} {effect : Effect} (owns : effect.Owns file)
    {paths : Path → Prop} (own : paths file) : effect.WorksOn paths := by
  cases effect with
  | file action =>
    cases action with
    | create path _ | append path _ | setMode path _ | remove path =>
      cases owns
      exact own
    | flush _ | sync _ | close _ => trivial
    | _ => exact owns.elim
  | openLog path level => exact owns.elim
  | _ => trivial

namespace World

variable {world : World} {path : Path} {location : Location}

/-- A log file does not stay open at a place where another file is put. -/
theorem notMem_logFile_withoutLogAt (located : world.tree.locate path = .ok (.named location)) :
    location ∉ (world.withoutLogAt path).logFile := by
  intro inside
  unfold withoutLogAt at inside
  split at inside
  · rename_i spot other opened here
    obtain rfl : other = location := Place.named.inj (Except.ok.inj (here.symm.trans located))
    split at inside
    · cases inside
    · rename_i apart
      rw [opened] at inside
      exact apart (beq_iff_eq.mpr (Option.some.inj inside))
  · rename_i other
    exact other location location inside located

/-- A line for the log leaves what is elsewhere. -/
theorem status_log (located : world.tree.locate path = .ok (.named location))
    (away : location ∉ world.logFile) (record : LogLine) :
    (world.log record).tree.status path = world.tree.status path := by
  obtain ⟨_, same | ⟨spot, bytes, opened, same⟩⟩ := world.log_leaves record
  · rw [same]
  · have apart : location ≠ spot := by
      rintro rfl
      exact away opened
    have there : (world.tree.appendAt spot bytes).locate path = .ok (.named location) :=
      (locate_of_sameShape (sameShape_appendAt bytes) path).trans located
    rw [same]
    simp only [status, located, there, get?_appendAt_of_ne apart]

end World

/-! ### The name of the new file -/

section Names

variable {token : String} {destination file : Path}

/-- The bytes of a token end as those of one of its digits do. -/
theorem IsToken.exists_concat (isToken : IsToken token) :
    ∃ front last, encode token = front ++ [last] ∧ last ≠ 0x67 := by
  have spelled := (List.dropLast_append_getLast isToken.ne_empty).symm
  obtain ⟨byte, coded, -, apart⟩ := exists_digitByte
    (isToken.2 _ (List.getLast_mem isToken.ne_empty))
  refine ⟨token.toList.dropLast.flatMap String.utf8EncodeChar, byte, ?_, apart⟩
  rw [encode, spelled, List.flatMap_append, List.flatMap_singleton, ← spelled, coded]

/-- **No new file has the name of the log.** -/
theorem name_fresh_ne_log (isToken : IsToken token) (destination directory : Path) :
    (destination.fresh token).fileName ≠ (logIn directory).fileName := by
  rw [fileName_fresh, fileName_logIn]
  intro same
  obtain ⟨front, last, coded, apart⟩ := isToken.exists_concat
  have log : (encode "fetcher.log").getLast? = some 0x67 := by decide
  rw [← FileName.mk.inj same, coded, ← List.append_assoc, List.getLast?_concat] at log
  exact apart (Option.some.inj log)

end Names

namespace Download

section Worlds

variable {world later : World} {job : Download} {downloader : Downloader} {watch : Watch}
  {file destination path : Path} {failure : Failure}

/-! ### A fetch that succeeds -/

/-- What a fetch that succeeded has found and left: the next reply is a response whose body has come
whole, and the new file holds what the body comes to. -/
structure Fetched (job : Download) (downloader : Downloader) (file : Path) (before after : World)
    (response : Response) (pieces : List Bytes) (data : Bytes) (location : Location) : Prop where
  answered : before.script.head? = some (.ok response)
  arrived : response.arrivals downloader.pieceSize = pieces.map .ok
  unpacked : contentOf job.gunzip pieces.flatten = .ok data
  located : after.tree.locate file = .ok (.named location)
  there : after.tree.get? location
    = some (.file data (finalMode before.tree.privileged job.mode data))

/-- **A fetch that succeeds** has found and left that. -/
theorem exists_fetched (away : ∀ place ∈ world.logFile, place.getLast? ≠ some file.fileName)
    (ok : world.attempt (fetch job downloader watch file) = (.ok (), later)) :
    ∃ response pieces data location,
      Fetched job downloader file world later response pieces data location := by
  obtain ⟨spot, logFile, apart⟩ : ∃ spot : Location,
      (∀ place ∈ world.logFile, place = spot) ∧ spot.getLast? ≠ some file.fileName := by
    cases opened : world.logFile with
    | none => exact ⟨[], nofun, nofun⟩
    | some spot => exact ⟨spot, fun _ inside => (Option.some.inj inside).symm, away spot opened⟩
  -- the same happens in a world without the log file, and that is one of the surroundings
  have owns := only_fetch job watch file downloader
  obtain ⟨same, bares⟩ := (bares_unlogged logFile).run apart owns
  have closed : world.unlogged.logFile = none := rfl
  obtain ⟨surroundings, scene, _, script, _, fetched, mirrors⟩ :=
    exists_surroundings (owns.mono fun _ => Effect.Owns.plain) closed
  rw [show world.run (fetch job downloader watch file).outcome = _ from ok] at same bares
  rw [show (world.unlogged.attempt (fetch job downloader watch file)).1 = .ok () from same]
    at fetched
  obtain ⟨response, total, location, _, pieces, data, answered, _, _, vacant, _, arrived, fills,
    rfl⟩ := attempt_fetch_eq_ok_iff.mp fetched
  have tree : (world.unlogged.run (fetch job downloader watch file).outcome).2.tree
      = world.tree.put location (.file data (finalMode world.tree.privileged job.mode data)) :=
    mirrors.tree.symm
  have alike := bares.tree
  rw [tree] at alike
  have located : later.tree.locate file = .ok (.named location) :=
    (locate_of_sameShape alike.shape file).symm.trans (vacant.locate_put _)
  refine ⟨response, pieces, data, location, script ▸ answered, arrived, fills.unpacked, located, ?_⟩
  exact (alike.get?_of_located apart located).symm.trans (vacant.get?_put _)

/-! ### A download that succeeds -/

/-- What a download that succeeded has found and left: the next reply is a response whose body has
come whole, the destination holds what the body comes to, and one request more has been sent. -/
structure Landed (job : Download) (downloader : Downloader) (before after : World) (path : Path)
    (response : Response) (pieces : List Bytes) (data : Bytes) : Prop where
  destined : job.destination.path = .ok path
  answered : before.script.head? = some (.ok response)
  arrived : response.arrivals downloader.pieceSize = pieces.map .ok
  unpacked : contentOf job.gunzip pieces.flatten = .ok data
  holds : after.tree.status path
    = .ok (.file data (finalMode before.tree.privileged job.mode data))
  sent : after.requests = before.requests ++ [job.request downloader]

/-- What has been put in the destination's place is there, and the log is elsewhere. -/
theorem exists_settled {location : Location} {entry : Entry} (beside : Beside file destination)
    (located : world.tree.locate file = .ok (.named location))
    (there : world.tree.get? location = some entry) (held : entry ≠ .directory)
    (ok : world.attempt (settle job file destination) = (.ok (), later)) :
    ∃ place, later.tree.locate destination = .ok (.named place) ∧ place ∉ later.logFile
      ∧ later.tree.status destination = .ok entry := by
  have renamed : world.attempt (Files.rename file destination) = (.ok (), later) := by
    unfold settle at ok
    rw [attempt_orElse] at ok
    split at ok
    · rename_i done
      exact done.trans ok
    · split at ok
      · obtain ⟨_, _, _, thrown⟩ := exists_of_attempt_bind ok
        cases thrown
      · cases ok
  obtain ⟨tree, moved, rfl⟩ := SettingsStore.attempt_rename_of_ok renamed
  obtain ⟨place, placed, free, apart, rfl⟩ :=
    SettingsStore.renamed_eq located there beside.name moved
  have kept : ∀ other, world.tree.get? other = some .directory →
      ((world.tree.erase location).put place entry).get? other = some .directory := by
    intro other directory
    have first : other ≠ place := fun same => free (same ▸ directory)
    have second : other ≠ location := by
      rintro rfl
      exact held (Option.some.inj (there.symm.trans directory))
    rw [get?_put_of_ne first, get?_erase_of_ne second, directory]
  have target := locate_of_directories kept placed
  refine ⟨place, target, notMem_logFile_withoutLogAt placed, ?_⟩
  simp only [withTree_tree, status, target, get?_put_self (not_given_of_ne_directory free)]

/-- A delivery that succeeds has fetched and settled. -/
theorem exists_delivered
    (ok : world.attempt (deliverOrClear job downloader watch file destination) = (.ok (), later)) :
    ∃ middle, world.attempt (fetch job downloader watch file) = (.ok (), middle)
      ∧ middle.attempt (settle job file destination) = (.ok (), later) := by
  unfold deliverOrClear at ok
  rw [attempt_orElse] at ok
  split at ok
  · rename_i done
    cases ok
    obtain ⟨_, middle, fetched, settled⟩ := exists_of_attempt_bind done
    exact ⟨middle, fetched, settled⟩
  · obtain ⟨_, _, _, thrown⟩ := exists_of_attempt_bind ok
    cases thrown

/-- **A download that succeeds lands**: the destination holds what the body comes to, and the line
for the log that follows is written elsewhere. -/
theorem exists_landed (isToken : IsToken world.name)
    (away : ∀ destination : Path, ∀ place ∈ world.logFile,
      place.getLast? ≠ some (destination.fresh world.name).fileName)
    (ok : world.attempt (download downloader job watch) = (.ok path, later)) :
    ∃ response pieces data, Landed job downloader world later path response pieces data := by
  rw [download_eq] at ok
  obtain ⟨destination, _, found, afterPath⟩ := exists_of_attempt_bind ok
  obtain ⟨destined, rfl⟩ := Prod.mk.inj ((attempt_ofExcept ..).symm.trans found)
  have named : ∀ world : World, world.attempt randomName = (.ok world.name, world) := fun _ => rfl
  rw [attempt_bind_of_ok (named _)] at afterPath
  obtain ⟨file, _, placed, afterFile⟩ := exists_of_attempt_bind afterPath
  obtain ⟨fresh, rfl⟩ := Prod.mk.inj ((attempt_ofExcept ..).symm.trans placed)
  obtain rfl := eq_fresh_of_temporaryPath fresh
  obtain ⟨_, last, delivered, told⟩ := exists_of_attempt_bind afterFile
  rw [attempt_bind_of_ok (attempt_log ..)] at told
  cases told
  obtain ⟨middle, fetched, settled⟩ := exists_delivered delivered
  obtain ⟨response, pieces, data, location, found⟩ := exists_fetched (away path) fetched
  obtain ⟨place, located, elsewhere, holds⟩ :=
    exists_settled (fresh_beside isToken path) found.located found.there nofun settled
  have sent : (world.attempt (deliverOrClear job downloader watch (path.fresh world.name)
      path)).2.requests = world.requests ++ [job.request downloader] :=
    requests_deliverOrClear world
  rw [delivered] at sent
  refine ⟨response, pieces, data, destined, found.answered, found.arrived, found.unpacked, ?_, ?_⟩
  · rw [run_logLine, status_log located elsewhere]
    exact holds
  · rw [(sameOutside_run_log ..).requests]
    exact sent

/-! ### A download that fails -/

section Failing

variable {paths : Path → Prop} {changed : Location → Prop}

/-- A settling that fails has done nothing but write the log. -/
theorem confines_settle_of_error (confined : Confined paths changed world)
    (failed : world.attempt (settle job file destination) = (.error failure, later)) :
    Confines paths changed world later := by
  unfold settle at failed
  rw [attempt_orElse] at failed
  split at failed
  · cases failed
  · rename_i cause middle refused
    obtain rfl := SettingsStore.attempt_rename_of_error refused
    have quiet : (if cause.isSystem then do
        log .error logger
          ("Failed to move " ++ file.text ++ " to " ++ destination.text ++ ": " ++ cause.message)
        throw (job.failedTo destination.text cause)
      else throw cause : Action Unit).Only Effect.IsQuiet :=
      .ite (.bind (only_log ..).quiet fun _ => .throw _) (.throw _)
    have confines := confined.confines_run (quiet.mono fun _ quiet => quiet.worksOn paths)
    rwa [show middle.run _ = _ from failed] at confines

/-- **A delivery that fails** keeps all places but those that the new file's path names and the
log. -/
theorem confines_deliverOrClear_of_error (own : paths file)
    (confined : Confined paths changed world)
    (failed : world.attempt (deliverOrClear job downloader watch file destination)
      = (.error failure, later)) : Confines paths changed world later := by
  have clears : ∀ {middle : World} {cause : Failure}, Confines paths changed world middle →
      middle.attempt (do clear file; throw cause : Action Unit) = (.error failure, later) →
      Confines paths changed world later := by
    intro middle cause confines cleared
    have only : (do clear file; throw cause : Action Unit).Only (Effect.WorksOn paths) :=
      .bind ((only_clear file).mono fun _ fills => fills.owns.worksOn own) fun _ => .throw _
    have more := confines.confined.confines_run only
    rw [show middle.run _ = _ from cleared] at more
    exact confines.trans more
  have fetches := confined.confines_run
    ((only_fetch job watch file downloader).mono fun _ owns => owns.worksOn own)
  unfold deliverOrClear deliver at failed
  rw [attempt_orElse, attempt_bind] at failed
  cases fetched : world.attempt (fetch job downloader watch file) with
  | mk result middle =>
    rw [fetched] at failed
    rw [show world.run _ = _ from fetched] at fetches
    cases result with
    | error cause => exact clears fetches failed
    | ok value =>
      simp only at failed
      cases settled : middle.attempt (settle job file destination) with
      | mk result last =>
        rw [settled] at failed
        cases result with
        | ok value => cases failed
        | error cause =>
          exact clears (fetches.trans (confines_settle_of_error fetches.confined settled)) failed

/-- **A download that fails** keeps all places but those that the path of its new file names and the
log. -/
theorem confines_download_of_error
    (own : ∀ destination, job.destination.path = .ok destination →
      paths (destination.fresh world.name))
    (confined : Confined paths changed world)
    (failed : world.attempt (download downloader job watch) = (.error failure, later)) :
    Confines paths changed world later := by
  rw [download_eq] at failed
  cases destined : job.destination.path with
  | error cause =>
    rw [destined] at failed
    cases failed
    exact confined.confines_refl
  | ok destination =>
    have named : world.attempt randomName = (.ok world.name, world) := rfl
    rw [destined, attempt_bind_of_ok (attempt_ofExcept ..), attempt_bind_of_ok named] at failed
    cases fresh : temporaryPath destination world.name with
    | error cause =>
      rw [fresh] at failed
      cases failed
      exact confined.confines_refl
    | ok file =>
      obtain rfl := eq_fresh_of_temporaryPath fresh
      rw [fresh, attempt_bind_of_ok (attempt_ofExcept ..), attempt_bind] at failed
      split at failed
      · rw [attempt_bind_of_ok (attempt_log ..)] at failed
        cases failed
      · rename_i delivered
        cases failed
        exact confines_deliverOrClear_of_error (own destination destined) confined delivered

end Failing

end Worlds

end Download

end AssetFetch
