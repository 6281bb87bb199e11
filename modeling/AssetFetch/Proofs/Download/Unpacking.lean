/-
**What an unpacked download is.**

* `status_of_download`: a download that succeeds leaves what its body comes to, and no more is asked
  of the body than that it can be read;
* `unpacked_download_complete_iff`: what it leaves is the whole of a compressed file exactly when
  nothing but members without data follows the first one;
* `truncated_download_is_visible`: a body that stops within a member is not refused.
-/

import AssetFetch.Proofs.Download.Delivery

namespace AssetFetch

open AssetFetch.Text FileTree Gzip

namespace Download

section Unpacked

variable {surroundings : Surroundings} {tree : FileTree} {job : Download} {downloader : Downloader}
  {watch : Watch} {result : Path} {later : Scene}

/-- A download that succeeds leaves what its body comes to. -/
theorem status_of_download {text : LooseText} (isToken : IsToken surroundings.name)
    (destined : job.destination = .named text) (named : (Path.ofText text).name ≠ "")
    (ok : surroundings.attempt (download downloader job watch) (.start tree)
      = (.ok result, later)) :
    ∃ (response : Response) (pieces : List Bytes) (data : Bytes),
      surroundings.script.head? = some (.ok response)
      ∧ response.arrivals downloader.pieceSize = pieces.map .ok
      ∧ contentOf job.gunzip pieces.flatten = .ok data
      ∧ later.tree.status (Path.ofText text)
        = .ok (.file data (finalMode tree.privileged job.mode data)) := by
  have path : job.destination.path = .ok (Path.ofText text) := by rw [destined]; rfl
  obtain ⟨_, delivered⟩ := (attempt_download_eq_ok_iff path (temporaryPath_eq named isToken)).mp ok
  obtain ⟨response, total, pieces, data, location, place, wished, _, delivers, rfl⟩ :=
    (attempt_deliver_start_eq_ok_iff (fresh_beside isToken _)).mp delivered
  exact ⟨response, pieces, data, delivers.answered, delivers.arrived, delivers.unpacked,
    delivers.placed.status_put _⟩

/-- **An unpacked download is the whole of a compressed file exactly when** its body begins with a
complete member and nothing but members without data follows. That the stream has come to its end
tells only that the body begins with a member, and a download does not ask for so much. -/
theorem unpacked_download_complete_iff {text : LooseText} (isToken : IsToken surroundings.name)
    (destined : job.destination = .named text) (named : (Path.ofText text).name ≠ "")
    (gunzip : job.gunzip = true)
    (ok : surroundings.attempt (download downloader job watch) (.start tree)
      = (.ok result, later)) :
    ∃ (response : Response) (pieces : List Bytes) (stream : Stream) (data : Bytes),
      surroundings.script.head? = some (.ok response)
      ∧ response.arrivals downloader.pieceSize = pieces.map .ok
      ∧ Stream.start.feed pieces.flatten = .ok stream ∧ data = stream.output.toList
      ∧ later.tree.status (Path.ofText text)
        = .ok (.file data (finalMode tree.privileged job.mode data))
      ∧ (stream.isFinished = true
        ↔ ∃ member rest, pieces.flatten = member ++ rest ∧ IsMember member data)
      ∧ (IsFile pieces.flatten data
        ↔ ∃ member rest, pieces.flatten = member ++ rest ∧ IsMember member data
          ∧ (rest = [] ∨ IsFile rest [])) := by
  obtain ⟨response, pieces, data, answered, arrived, unpacked, left⟩ :=
    status_of_download isToken destined named ok
  rw [contentOf, gunzip, if_pos rfl] at unpacked
  cases fed : Stream.start.feed pieces.flatten with
  | error fault =>
    rw [fed] at unpacked
    cases unpacked
  | ok stream =>
    rw [fed] at unpacked
    cases unpacked
    exact ⟨response, pieces, stream, _, answered, arrived, fed, rfl, left, isFinished_iff fed,
      isFile_output_iff fed⟩

/-- A file that is to be unpacked. -/
def packed : Download := { threeBytes with gunzip := true }

/-- A member with the single byte `a`, stored. -/
def storedMember : Bytes :=
  [0x1F, 0x8B, 8, 0, 0, 0, 0, 0, 0, 0xFF, 1, 1, 0, 0xFE, 0xFF, 0x61,
    0x43, 0xBE, 0xB7, 0xE8, 1, 0, 0, 0]

/-- The first bytes of a member with five bytes, two of which are there. -/
def truncatedMember : Bytes :=
  [0x1F, 0x8B, 8, 0, 0, 0, 0, 0, 0, 0xFF, 1, 5, 0, 0xFA, 0xFF, 0x68, 0x65]

/-- A response with some bytes that announces as many. -/
def bearing (bytes : Bytes) : Response :=
  ⟨200, [("content-length", .text (LooseText.ofString (natText bytes.length)))],
    .pieces [.ok bytes], .utf8 Json.Depths.usual.read⟩

/-- Surroundings that answer with some bytes. -/
def bringing (bytes : Bytes) : Surroundings :=
  .calm "0123456789" [.ok (bearing bytes)]

/-- A complete member. -/
theorem unpacked_download_complete_iff_stored :
    IsToken "0123456789" ∧ packed.destination = .named "asset.bin"
      ∧ (Path.ofText "asset.bin").name ≠ "" ∧ packed.gunzip = true
      ∧ ∃ result later, (bringing storedMember).attempt (download .standard packed .nobody)
          (.start .empty) = (.ok result, later)
        ∧ ∃ (response : Response) (pieces : List Bytes) (stream : Stream) (data : Bytes),
          (bringing storedMember).script.head? = some (.ok response)
          ∧ response.arrivals Downloader.standard.pieceSize = pieces.map .ok
          ∧ Stream.start.feed pieces.flatten = .ok stream ∧ data = stream.output.toList
          ∧ later.tree.status (Path.ofText "asset.bin")
            = .ok (.file data (finalMode false packed.mode data))
          ∧ (stream.isFinished = true
            ↔ ∃ member rest, pieces.flatten = member ++ rest ∧ IsMember member data)
          ∧ (IsFile pieces.flatten data
            ↔ ∃ member rest, pieces.flatten = member ++ rest ∧ IsMember member data
              ∧ (rest = [] ∨ IsFile rest [])) := by
  refine ⟨by decide, rfl, by decide +kernel, rfl, ?_⟩
  have ok : ((bringing storedMember).attempt (download .standard packed .nobody)
      (.start .empty)).1.isOk = true := by decide +kernel
  obtain ⟨result, later, same⟩ := Surroundings.exists_success ok
  refine ⟨result, later, same, ?_⟩
  exact unpacked_download_complete_iff (by decide) rfl (by decide +kernel) rfl same

/-- **A body that stops within a member is not refused**: what could be read of it is left at the
destination. -/
theorem truncated_download_is_visible :
    ((bringing truncatedMember).attempt (download .standard packed .nobody)
        (.start .empty)).1.isOk = true
      ∧ ((bringing truncatedMember).attempt (download .standard packed .nobody)
          (.start .empty)).2.tree = ⟨[(["asset.bin"], .file [0x68, 0x65] 0o644)], false⟩
      ∧ ∀ data, ¬ IsFile truncatedMember data := by
  refine ⟨by decide +kernel, by decide +kernel, fun data isFile => ?_⟩
  obtain ⟨stream, fed, finished, _⟩ := isFile.feed
  have unfinished : ((Stream.start.feed truncatedMember).map Stream.isFinished).toOption
      = some false := by decide +kernel
  rw [fed] at unfinished
  simp [Except.map, Except.toOption, finished] at unfinished

end Unpacked

end Download

end AssetFetch
