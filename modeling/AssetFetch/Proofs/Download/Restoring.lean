/-
**Unpacking undoes packing.**

* `contentOf_storedMember`: what a member with stored data comes to;
* `unpacked_download_restores`: **a download that unpacks such a member leaves its data**, whatever
  its header says, however they are cut into blocks, and in whatever pieces it arrives; and its
  follower is last told the size of the member, not that of the data.
-/

import AssetFetch.Proofs.Download.Chunking
import AssetFetch.Proofs.Download.Orderly
import AssetFetch.Proofs.Gzip.Stored

namespace AssetFetch

open AssetFetch.Text Gzip

namespace Download

section Restoring

variable {name : String} {response : Response} {script : List (Except Failure Response)}
  {tree : FileTree} {job : Download} {downloader : Downloader} {pieces : List Bytes}
  {location place : Location} {wished : Int} {member : StoredMember}

/-- What a member with stored data comes to. -/
theorem contentOf_storedMember (member : StoredMember) :
    contentOf true member.bytes = .ok member.payload := by
  obtain ⟨stream, fed, _, same⟩ := member.feed
  simp only [contentOf, if_true, fed, Except.map, same]

theorem bytes_ne_nil (member : StoredMember) : member.bytes ≠ [] := by
  simp [StoredMember.bytes, Header.bytes, Header.checkedBytes]

/-- The last count of a body that announces its size is that size. -/
theorem getLast?_toldCounts (filled : pieces.flatten ≠ []) :
    (toldCounts pieces pieces.flatten.length).getLast? = some pieces.flatten.length := by
  have something : pieces.flatten.length ≠ 0 := fun none => filled (List.length_eq_zero_iff.mp none)
  rw [toldCounts, if_neg something, List.append_nil, getLast?_countsAfter, if_neg filled,
    Nat.zero_add]

/-- Where nothing goes wrong, a body that announces its size is written. -/
theorem fills_calm {watch : Watch} {data : Bytes}
    (unpacked : contentOf job.gunzip pieces.flatten = .ok data) :
    Fills (.calm name script) job watch pieces.flatten.length pieces data where
  created := rfl
  modeSet _ := rfl
  going _ _ := rfl
  written _ _ := rfl
  unpacked := unpacked
  enough := Nat.le_refl _
  told _ _ _ := rfl
  flushed := rfl
  synced := rfl
  closed := rfl

/-- **A download that unpacks a member with stored data leaves these data**, where nothing goes
wrong and the size of the member is announced, and the follower is told that size in the end. -/
theorem unpacked_download_restores {text : LooseText} (isToken : IsToken name)
    (destined : job.destination = .named text) (named : (Path.ofText text).name ≠ "")
    (wanted : wishedMode job.mode = some wished) (gunzip : job.gunzip = true)
    (accepted : response.status < 400 ∨ 600 ≤ response.status)
    (announced : Announces response member.bytes.length)
    (arrived : response.arrivals downloader.pieceSize = pieces.map .ok)
    (whole : pieces.flatten = member.bytes)
    (vacant : tree.Vacant ((Path.ofText text).fresh name) location)
    (placed : tree.Accepts (Path.ofText text) place) :
    ∃ later, (Surroundings.calm name (.ok response :: script)).attempt
          (download downloader job .counts) (.start tree) = (.ok (Path.ofText text), later)
      ∧ later.tree = tree.put place
          (.file member.payload (finalMode tree.privileged job.mode member.payload))
      ∧ later.tree.status (Path.ofText text)
        = .ok (.file member.payload (finalMode tree.privileged job.mode member.payload))
      ∧ later.calls.getLast? = some (member.bytes.length, member.bytes.length) := by
  have path : job.destination.path = .ok (Path.ofText text) := by rw [destined]; rfl
  have unpacked : contentOf job.gunzip pieces.flatten = .ok member.payload := by
    rw [gunzip, whole]
    exact contentOf_storedMember member
  have filled : pieces.flatten ≠ [] := whole ▸ bytes_ne_nil member
  rw [← whole] at announced ⊢
  have delivers : Delivers (.calm name (.ok response :: script)) downloader job .counts tree
      ((Path.ofText text).fresh name) (Path.ofText text) response pieces.flatten.length pieces
      member.payload location place :=
    { fills_calm unpacked with
      answered := rfl
      accepted, announced, arrived, vacant, placed
      moved := rfl }
  refine ⟨_, (attempt_download_eq_ok_iff path (temporaryPath_eq named isToken)).mpr ⟨rfl,
    (attempt_deliver_start_eq_ok_iff (fresh_beside isToken _)).mpr
      ⟨_, _, _, _, _, _, _, wanted, delivers, rfl⟩⟩, rfl, placed.status_put _, ?_⟩
  show ((toldCounts pieces pieces.flatten.length).map fun read =>
    (read, pieces.flatten.length)).getLast? = _
  rw [List.getLast?_map, getLast?_toldCounts filled]
  rfl

/-- A member with every optional field, and blocks of which one is empty. -/
def annotatedMember : StoredMember where
  header :=
    { isText := true
      isChecked := true
      origin := [0, 0, 0, 0, 0, 0xFF]
      extra := some [1, 2]
      name := some [0x61]
      comment := some []
      origin_length := rfl
      extra_fits := by simp
      name_free := by simp
      comment_free := by simp }
  early := [⟨[0x68, 0x65], 3, by decide⟩, ⟨[], 0, by decide⟩]
  last := ⟨[0x6C, 0x6C, 0x6F], 31, by decide⟩

/-- Pieces of that member, cut within its header and within a block, one of them empty. -/
def annotatedPieces : List Bytes :=
  [annotatedMember.bytes.take 3, [], (annotatedMember.bytes.drop 3).take 30,
    annotatedMember.bytes.drop 33]

/-- A response with these pieces. -/
def annotatedResponse : Response :=
  inPieces 200 (announcing annotatedMember.bytes.length) utf8 annotatedPieces

/-- Such a member in pieces. -/
theorem unpacked_download_restores_annotated :
    IsToken "0123456789" ∧ packed.destination = .named "asset.bin"
      ∧ (Path.ofText "asset.bin").name ≠ "" ∧ wishedMode packed.mode = some FileTree.plainMode
      ∧ packed.gunzip = true
      ∧ (annotatedResponse.status < 400 ∨ 600 ≤ annotatedResponse.status)
      ∧ Announces annotatedResponse annotatedMember.bytes.length
      ∧ annotatedResponse.arrivals Downloader.standard.pieceSize = annotatedPieces.map .ok
      ∧ annotatedPieces.flatten = annotatedMember.bytes
      ∧ FileTree.empty.Vacant ((Path.ofText "asset.bin").fresh "0123456789") ["asset0123456789"]
      ∧ FileTree.empty.Accepts (Path.ofText "asset.bin") ["asset.bin"]
      ∧ ∃ later, (Surroundings.calm "0123456789" [.ok annotatedResponse]).attempt
            (download .standard packed .counts) (.start .empty)
            = (.ok (Path.ofText "asset.bin"), later)
        ∧ later.tree = FileTree.empty.put ["asset.bin"]
            (.file annotatedMember.payload (finalMode false packed.mode annotatedMember.payload))
        ∧ later.tree.status (Path.ofText "asset.bin")
          = .ok (.file annotatedMember.payload
              (finalMode false packed.mode annotatedMember.payload))
        ∧ later.calls.getLast?
          = some (annotatedMember.bytes.length, annotatedMember.bytes.length) := by
  have isToken : IsToken "0123456789" := by decide
  have named : (Path.ofText "asset.bin").name ≠ "" := by decide +kernel
  have accepted : annotatedResponse.status < 400 ∨ 600 ≤ annotatedResponse.status :=
    .inl (by decide)
  have announced : Announces annotatedResponse annotatedMember.bytes.length :=
    ⟨LooseText.ofString (natText annotatedMember.bytes.length), rfl, by decide +kernel,
      List.all_eq_true.mp (by decide +kernel), by decide +kernel, by decide +kernel⟩
  have whole : annotatedPieces.flatten = annotatedMember.bytes := by decide +kernel
  have vacant : FileTree.empty.Vacant ((Path.ofText "asset.bin").fresh "0123456789")
      ["asset0123456789"] := ⟨by decide +kernel, by decide +kernel⟩
  have placed : FileTree.empty.Accepts (Path.ofText "asset.bin") ["asset.bin"] :=
    ⟨by decide +kernel, by decide +kernel⟩
  exact ⟨isToken, rfl, named, rfl, rfl, accepted, announced, rfl, whole, vacant, placed,
    unpacked_download_restores isToken rfl named rfl rfl accepted announced rfl whole vacant placed⟩

end Restoring

end Download

end AssetFetch
