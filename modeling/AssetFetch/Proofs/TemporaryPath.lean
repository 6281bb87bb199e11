/-
**The path of a new file.**

* `IsToken`: the random part of a name, ten digits of base sixteen;
* `stem_append_ne`: a stem with a token behind it is never the name that the stem is of;
* `temporaryPath_eq`, `fresh_beside`: the path of the new file is there for every destination with a
  name, and it lies beside the destination;
* `eq_fresh_of_temporaryPath`, `fresh_injective`: it is made of the destination and the token alone,
  and different tokens make different paths;
* `temporaryPath_exact`: what the path of the new file is, and when there is none.
-/

import AssetFetch.Download
import AssetFetch.Proofs.FileTree
import AssetFetch.Proofs.Path
import AssetFetch.Proofs.Text.Utf8

namespace AssetFetch

open AssetFetch.Text

/-! ### Tokens -/

section Tokens

variable {name : LooseText} {token : String} {digit : Char}

/-- The digits of base sixteen. -/
def tokenDigits : List Char := "0123456789abcdef".toList

/-- The random part of a name. -/
def IsToken (token : String) : Prop :=
  token.length = 10 ∧ ∀ digit ∈ token.toList, digit ∈ tokenDigits

instance (token : String) : Decidable (IsToken token) :=
  decidable_of_iff (token.length = 10 ∧ token.toList.all (tokenDigits.contains ·) = true)
    (by simp [IsToken])

theorem IsToken.ne_empty (isToken : IsToken token) : token.toList ≠ [] := by
  intro empty
  have long := isToken.1
  rw [← String.length_toList, empty] at long
  cases long

/-- A digit of a token is written in one byte, that of neither the dot nor the letter `g`. -/
theorem exists_digitByte (isDigit : digit ∈ tokenDigits) :
    ∃ byte, String.utf8EncodeChar digit = [byte] ∧ byte ≠ 0x2E ∧ byte ≠ 0x67 := by
  -- over the list, since a search among all characters would not end
  have small : tokenDigits.all (fun digit => digit.toNat ≤ 0x7F ∧
      UInt8.ofNat digit.toNat ≠ 0x2E ∧ UInt8.ofNat digit.toNat ≠ 0x67) = true := by decide
  obtain ⟨below, apart⟩ := of_decide_eq_true (List.all_eq_true.mp small digit isDigit)
  exact ⟨UInt8.ofNat digit.toNat, if_pos below, apart⟩

/-- The bytes of a token start as those of one of its digits do. -/
theorem IsToken.exists_cons (isToken : IsToken token) :
    ∃ first rest, encode token = first :: rest ∧ first ≠ 0x2E := by
  obtain ⟨digit, rest, spelled⟩ := List.exists_cons_of_ne_nil isToken.ne_empty
  obtain ⟨byte, coded, apart, -⟩ := exists_digitByte (isToken.2 digit (by simp [spelled]))
  refine ⟨byte, rest.flatMap String.utf8EncodeChar, ?_, apart⟩
  rw [encode, spelled, List.flatMap_cons, coded, List.singleton_append]

/-- **A stem with a token behind it is another name**, even where halves stand for bytes of
characters. -/
theorem stem_append_ne (isToken : IsToken token) (name : LooseText) :
    (Path.stemOf name ++ LooseText.ofString token).fileName ≠ name.fileName := by
  intro same
  have spelled := congrArg FileName.bytes same
  obtain ⟨first, rest, coded, apart⟩ := isToken.exists_cons
  simp only [LooseText.fileName, LooseText.bytes_append, LooseText.bytes_ofString, coded] at spelled
  rcases (Path.isStem_stemOf name).eq_or with all | ⟨suffix, cut⟩
  · rw [all] at spelled
    simp at spelled
  · -- the token would begin with the dot of the suffix
    have bytes : name.bytes
        = (Path.stemOf name).bytes ++ 0x2E :: suffix.flatMap LooseText.nameBytes := by
      simp only [LooseText.bytes, cut, List.flatMap_append, List.flatMap_cons]
      rfl
    rw [bytes, List.append_cancel_left_eq] at spelled
    exact apart (List.cons.inj spelled).1

end Tokens

/-! ### The new file -/

section Fresh

variable {token : String} {destination path : Path}

/-- The path of the new file beside a destination. -/
def Path.fresh (destination : Path) (token : String) : Path :=
  destination.sibling (destination.stem ++ LooseText.ofString token)

theorem finalName_fresh (destination : Path) (token : String) :
    (destination.fresh token).finalName = destination.stem ++ LooseText.ofString token :=
  Path.finalName_sibling ..

theorem fileName_fresh (destination : Path) (token : String) :
    (destination.fresh token).fileName = ⟨destination.stem.bytes ++ encode token⟩ := by
  rw [Path.fileName, finalName_fresh, LooseText.fileName, LooseText.bytes_append,
    LooseText.bytes_ofString]

/-- **The new file lies beside the destination.** -/
theorem fresh_beside (isToken : IsToken token) (destination : Path) :
    FileTree.Beside (destination.fresh token) destination where
  parent := Path.parent_sibling ..
  name := by
    rw [Path.fileName, finalName_fresh]
    exact stem_append_ne isToken destination.finalName

theorem isFileName_of_free {name : LooseText} (free : Path.slash ∉ name.characters)
    (significant : Path.isSignificant name = true) : isFileName name = true := by
  have last : name.characters.getLast? ≠ some Path.slash := fun final =>
    free (List.mem_of_getLast? final)
  simp [isFileName, Path.ofText_of_free free significant, last]

theorem slash_notMem_fresh (isToken : IsToken token) (sound : destination.IsSound)
    (named : destination.finalName ≠ "") :
    Path.slash ∉ (destination.stem ++ LooseText.ofString token).characters := by
  rw [LooseText.characters_append, List.mem_append]
  rintro (member | member)
  · exact Path.slash_notMem_stemOf (sound.free _ (Path.finalName_mem named)) member
  · obtain ⟨digit, inside, same⟩ := List.mem_map.mp member
    cases same
    exact absurd (isToken.2 _ inside) (by decide)

theorem isSignificant_fresh (isToken : IsToken token) (destination : Path) :
    Path.isSignificant (destination.stem ++ LooseText.ofString token) = true := by
  have ten : (LooseText.ofString token).characters.length = 10 := by
    rw [LooseText.ofString, List.length_map, String.length_toList]
    exact isToken.1
  refine Path.isSignificant_of_length ?_
  rw [LooseText.characters_append, List.length_append]
  omega

theorem isSound_fresh (isToken : IsToken token) (sound : destination.IsSound)
    (named : destination.finalName ≠ "") : (destination.fresh token).IsSound :=
  sound.sibling (isSignificant_fresh isToken destination) (slash_notMem_fresh isToken sound named)

theorem temporaryPath_of_sound (isToken : IsToken token) (sound : destination.IsSound)
    (named : destination.finalName ≠ "") :
    temporaryPath destination token = .ok (destination.fresh token) := by
  have proper := isFileName_of_free (slash_notMem_fresh isToken sound named)
    (isSignificant_fresh isToken destination)
  simp [temporaryPath, mt Path.name_eq_empty_iff.mp named, proper, Path.fresh]

/-- **Every destination with a name has a path for its new file.** -/
theorem temporaryPath_eq {text : LooseText} (named : (Path.ofText text).name ≠ "")
    (isToken : IsToken token) :
    temporaryPath (Path.ofText text) token = .ok ((Path.ofText text).fresh token) :=
  temporaryPath_of_sound isToken (Path.isSound_ofText text) (mt Path.name_eq_empty_iff.mpr named)

theorem temporaryPath_of_unnamed (unnamed : destination.finalName = "") (token : String) :
    temporaryPath destination token = .error (.noFileName destination) := by
  simp [temporaryPath, Path.name_eq_empty_iff.mpr unnamed]

/-- The path of a new file is made of the destination's stem and the random part, whatever that
is. -/
theorem eq_fresh_of_temporaryPath (fresh : temporaryPath destination token = .ok path) :
    path = destination.fresh token := by
  unfold temporaryPath at fresh
  split at fresh
  · cases fresh
  · simp only at fresh
    split at fresh
    · exact (Except.ok.inj fresh).symm
    · cases fresh

/-- Different random parts make different paths. -/
theorem fresh_injective {other : String}
    (same : destination.fresh token = destination.fresh other) : token = other := by
  have names := congrArg (fun path => path.finalName.characters) same
  simp only [finalName_fresh, LooseText.characters_append, List.append_cancel_left_eq] at names
  exact LooseText.ofString_inj.mp (congrArg LooseText.mk names)

/-- Different random parts even make different names for the system. -/
theorem fileName_fresh_injective {other : String}
    (same : (destination.fresh token).fileName = (destination.fresh other).fileName) :
    token = other := by
  rw [fileName_fresh, fileName_fresh, FileName.mk.injEq, List.append_cancel_left_eq] at same
  exact encode_injective same

/-- What the path of a new file has to be: a path that comes back when it is written and read again,
in the destination's directory, named by the stem of the destination's name and the random part, and
not the destination itself. -/
structure Path.IsFresh (path destination : Path) (token : String) : Prop where
  written : Path.ofText path.looseText = path
  parent : path.parent = destination.parent
  finalName : ∃ stem, Path.IsStem destination.finalName stem
    ∧ path.finalName = stem ++ LooseText.ofString token
  apart : path ≠ destination

theorem isFresh_fresh (isToken : IsToken token) (sound : destination.IsSound)
    (named : destination.finalName ≠ "") :
    (destination.fresh token).IsFresh destination token where
  written := Path.ofText_looseText (isSound_fresh isToken sound named)
  parent := Path.parent_sibling ..
  finalName := ⟨destination.stem, Path.isStem_iff.mpr rfl, finalName_fresh ..⟩
  apart same := (fresh_beside isToken destination).name (congrArg Path.fileName same)

/-- **The path of a new file.** Only a destination without a final name has none, and this is all
that can fail. For every other destination the path lies beside it under its stem and the random
part, is never the destination itself, and no other random part leads to it. -/
theorem temporaryPath_exact (isToken : IsToken token) (text : LooseText) :
    (∀ failure, temporaryPath (.ofText text) token = .error failure
        ↔ (Path.ofText text).finalName = "" ∧ failure = .noFileName (.ofText text))
      ∧ ((Path.ofText text).finalName ≠ "" →
        ∃ path, temporaryPath (.ofText text) token = .ok path
          ∧ path.IsFresh (.ofText text) token
          ∧ ∀ other, temporaryPath (.ofText text) other = .ok path → other = token) := by
  have sound := Path.isSound_ofText text
  refine ⟨fun failure => ⟨fun fails => ?_, ?_⟩, fun named => ?_⟩
  · by_cases named : (Path.ofText text).finalName = ""
    · rw [temporaryPath_of_unnamed named] at fails
      exact ⟨named, (Except.error.inj fails).symm⟩
    · rw [temporaryPath_of_sound isToken sound named] at fails
      cases fails
  · rintro ⟨unnamed, rfl⟩
    exact temporaryPath_of_unnamed unnamed token
  · refine ⟨_, temporaryPath_of_sound isToken sound named, isFresh_fresh isToken sound named, ?_⟩
    exact fun other made => (fresh_injective (eq_fresh_of_temporaryPath made)).symm

/-- A suffix that looks like a random part goes as any other suffix does. -/
theorem temporaryPath_exact_digits :
    IsToken "0123456789" ∧ (Path.ofText "bin/asset.0123456789").finalName ≠ ""
      ∧ ∃ path, temporaryPath (.ofText "bin/asset.0123456789") "0123456789" = .ok path
        ∧ path.IsFresh (.ofText "bin/asset.0123456789") "0123456789"
        ∧ path.text = "bin/asset0123456789" := by
  have isToken : IsToken "0123456789" := by decide
  have named : (Path.ofText "bin/asset.0123456789").finalName ≠ "" := by decide +kernel
  obtain ⟨path, made, isFresh, _⟩ := (temporaryPath_exact isToken "bin/asset.0123456789").2 named
  refine ⟨isToken, named, path, made, isFresh, ?_⟩
  rw [eq_fresh_of_temporaryPath made]
  decide +kernel

end Fresh

end AssetFetch
