/-
**When a download succeeds.**

* `modeBits_of_le`: permission bits in their range are set as they are given;
* `download_succeeds_iff`: a download succeeds exactly when everything around it lets it, and then
  it answers with the destination, nothing differs but the destination, which is a file with all the
  data, and the follower has been told every count.
-/

import AssetFetch.Proofs.Download.Atomic

namespace AssetFetch

open AssetFetch.Text FileTree

namespace Download

section Success

variable {surroundings : Surroundings} {tree : FileTree} {job : Download} {downloader : Downloader}
  {watch : Watch} {result : Path} {later : Scene} {bits : Nat}

/-- Permission bits in their range are set as they are given. -/
theorem modeBits_of_le (small : bits ≤ 0o7777) : modeBits bits = bits := by
  have same : (bits : Int) % 0x1000 = bits := Int.emod_eq_of_lt (by omega) (by omega)
  rw [modeBits, same, Int.toNat_natCast]

/-- The permission bits that a file gets are those given, or the usual ones. -/
def Allowed (wish : Given Int) (bits : Nat) : Prop :=
  (wish = .absent ∧ bits = 0o644) ∨ (wish = .value bits ∧ bits ≤ 0o7777)

theorem Allowed.finalMode {wish : Given Int} (allowed : Allowed wish bits) (privileged : Bool)
    (data : Bytes) : finalMode privileged wish data = modeWith privileged data bits := by
  rcases allowed with ⟨rfl, rfl⟩ | ⟨rfl, small⟩
  · rfl
  · show modeWith privileged data (modeBits bits) = modeWith privileged data bits
    rw [modeBits_of_le small]

theorem Allowed.wishedMode {wish : Given Int} (allowed : Allowed wish bits) :
    ∃ wished, wishedMode wish = some wished := by
  rcases allowed with ⟨rfl, rfl⟩ | ⟨rfl, small⟩
  · exact ⟨_, rfl⟩
  · have far : ¬ ((bits : Int) < World.modeRange.1 ∨ World.modeRange.2 < (bits : Int)) := by
      simp only [World.modeRange]
      omega
    exact ⟨bits, by simp [AssetFetch.wishedMode, far]⟩

/-- **A download succeeds exactly when everything around it lets it**, and then it answers with the
destination; nothing differs but the destination, which is a file with all the data, and the
follower has been told every count. -/
theorem download_succeeds_iff {text : LooseText} (isToken : IsToken surroundings.name)
    (destined : job.destination = .named text) (named : (Path.ofText text).name ≠ "")
    (allowed : Allowed job.mode bits) :
    surroundings.attempt (download downloader job watch) (.start tree) = (.ok result, later)
      ↔ result = Path.ofText text ∧ ∃ response total pieces data location place,
        Delivers surroundings downloader job watch tree
            ((Path.ofText text).fresh surroundings.name) (Path.ofText text) response total pieces
            data location place
          ∧ later =
            { tree := tree.put place (.file data (modeWith tree.privileged data bits))
              sent := 1
              looks := pieces.length
              writes := (countsAfter 0 pieces).length
              calls := watch.calls total (toldCounts pieces total)
              reports := watch.reports total .start (toldCounts pieces total) } := by
  have path : job.destination.path = .ok (Path.ofText text) := by rw [destined]; rfl
  rw [attempt_download_eq_ok_iff path (temporaryPath_eq named isToken),
    attempt_deliver_start_eq_ok_iff (fresh_beside isToken _)]
  refine and_congr_right fun _ => ?_
  constructor
  · rintro ⟨response, total, pieces, data, location, place, wished, _, delivers, rfl⟩
    refine ⟨response, total, pieces, data, location, place, delivers, ?_⟩
    rw [allowed.finalMode]
    rfl
  · rintro ⟨response, total, pieces, data, location, place, delivers, rfl⟩
    obtain ⟨wished, wanted⟩ := allowed.wishedMode
    refine ⟨response, total, pieces, data, location, place, wished, wanted, delivers, ?_⟩
    rw [allowed.finalMode]
    rfl

/-- Three bytes that become a program which runs as its owner. -/
def ownersBytes : Download :=
  { threeBytes with mode := .value 0o4755 }

/-- A privileged user whose disk is empty. -/
def privilegedTree : FileTree :=
  ⟨[], true⟩

/-- Three bytes in two pieces for a follower of counts. The user who writes them is privileged, and
the user identity bit stays. -/
theorem download_succeeds_iff_privileged :
    IsToken "0123456789" ∧ ownersBytes.destination = .named "asset.bin"
      ∧ (Path.ofText "asset.bin").name ≠ "" ∧ Allowed ownersBytes.mode 0o4755
      ∧ ∃ result later, (Surroundings.calm "0123456789" [.ok threeBytesResponse]).attempt
          (download .standard ownersBytes .counts) (.start privilegedTree) = (.ok result, later)
        ∧ result = Path.ofText "asset.bin" ∧ ∃ response total pieces data location place,
          Delivers (.calm "0123456789" [.ok threeBytesResponse]) .standard ownersBytes .counts
              privilegedTree ((Path.ofText "asset.bin").fresh "0123456789")
              (Path.ofText "asset.bin") response total pieces data location place
            ∧ later =
              { tree := privilegedTree.put place (.file data 0o4755)
                sent := 1
                looks := pieces.length
                writes := (countsAfter 0 pieces).length
                calls := Watch.counts.calls total (toldCounts pieces total)
                reports := Watch.counts.reports total .start (toldCounts pieces total) } := by
  have allowed : Allowed ownersBytes.mode 0o4755 := Or.inr ⟨rfl, by decide⟩
  refine ⟨by decide, rfl, by decide +kernel, allowed, ?_⟩
  have ok : ((Surroundings.calm "0123456789" [.ok threeBytesResponse]).attempt
      (download .standard ownersBytes .counts) (.start privilegedTree)).1.isOk = true := by
    decide +kernel
  obtain ⟨result, later, same⟩ := Surroundings.exists_success ok
  refine ⟨result, later, same, ?_⟩
  have found := (download_succeeds_iff (by decide) rfl (by decide +kernel) allowed).mp same
  simp only [privilegedTree, modeWith_true] at found ⊢
  exact found

end Success

end Download

end AssetFetch
