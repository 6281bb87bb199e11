/-
**Choosing an asset by its name.**

A description may give anything as the name of an asset. Only a text is the name that is asked for,
and of several assets with that name the first is chosen. Without one, the failure lists the names
that there are; a name that is present but no text cannot be listed.

* `Release.IsFirst`: an asset is the first of a name; `asset?_eq_some_iff`, `asset?_eq_none_iff`:
  **what is looked up is that asset**;
* `Release.HasOddName`: a name is present but no text; `ofMissingAsset_of_listable`,
  `ofMissingAsset_of_odd`: what becomes of the failure without and with such a name;
* `Release.called`, `Release.title`: what a release is called by, and how; `select_of_missing`: a
  number in it may be too long for that;
* `Release.Selects`: what is promised of a choice, and `Release.select_promised_iff`: **the promise
  is kept exactly if neither an odd name nor too long a number is in the way of the failure**.
-/

import AssetFetch.Release
import Mathlib.Data.List.Basic

namespace AssetFetch

open AssetFetch.Text

namespace Release

variable {release : Release} {name : LooseText} {asset : Asset}

/-! ### The first asset of a name -/

section First

/-- An asset is the first one of a name. -/
def IsFirst (release : Release) (name : LooseText) (asset : Asset) : Prop :=
  asset.name = .text name ∧ ∃ before after, release.assets = before ++ asset :: after
    ∧ ∀ other ∈ before, other.name ≠ .text name

/-- Only a text is equal to a text, and only to itself. -/
theorem equals_text_iff {value : Value} :
    value.equals (.text name) = true ↔ value = .text name := by
  cases value with
  | text characters => simp [Value.equals]
  | _ => exact iff_of_false (by simp [Value.equals]) nofun

/-- **The first asset of a name is looked up.** -/
theorem asset?_eq_some_iff :
    release.asset? (.text name) = some asset ↔ release.IsFirst name asset := by
  unfold asset? IsFirst
  simp only [List.find?_eq_some_iff_append, equals_text_iff, Bool.not_eq_eq_eq_not, Bool.not_true,
    Bool.eq_false_iff, ne_eq]

/-- Nothing is looked up exactly if no asset has the name. -/
theorem asset?_eq_none_iff :
    release.asset? (.text name) = none ↔ ∀ asset ∈ release.assets, asset.name ≠ .text name := by
  unfold asset?
  simp only [List.find?_eq_none, equals_text_iff, ne_eq]

end First

/-! ### Names that cannot be listed -/

section Odd

/-- A name is present but no text. -/
def HasOddName (release : Release) : Prop :=
  ∃ asset ∈ release.assets, asset.name.isTruthy = true ∧ asset.name.kind ≠ .text

/-- The names that are present, in order. -/
def presentNames (release : Release) : List Value :=
  release.assetNames.filter Value.isTruthy

theorem hasOddName_iff : release.HasOddName ↔ ∃ name ∈ release.presentNames, name.kind ≠ .text := by
  simp only [HasOddName, presentNames, assetNames, List.mem_filter, List.mem_map]
  constructor
  · rintro ⟨asset, member, present, odd⟩
    exact ⟨asset.name, ⟨⟨asset, member, rfl⟩, present⟩, odd⟩
  · rintro ⟨_, ⟨⟨asset, member, rfl⟩, present⟩, odd⟩
    exact ⟨asset, member, present, odd⟩

/-- The failure depends on the first of the names that are present but no texts. -/
theorem ofMissingAsset_eq {tag : Value} (sayable : tag.isSayable = true) (asked : LooseText) :
    Failure.ofMissingAsset tag (.text asked) release.assetNames
      = match release.presentNames.findIdx? (fun name => name.kind != .text) with
        | some index => .notText index (release.presentNames.getD index .null).kind
        | none => .ofFetch (.assetMissing tag (.text asked) release.assetNames) :=
  if_pos (by simpa [Value.isSayable] using sayable)

/-- Where every name that is present is a text, **the failure lists all names**. -/
theorem ofMissingAsset_of_listable {tag : Value} (sayable : tag.isSayable = true)
    (asked : LooseText) (listable : ¬ release.HasOddName) :
    Failure.ofMissingAsset tag (.text asked) release.assetNames
      = .ofFetch (.assetMissing tag (.text asked) release.assetNames) := by
  have texts : release.presentNames.findIdx? (fun name => name.kind != .text) = none := by
    rw [List.findIdx?_eq_none_iff]
    intro name member
    by_contra odd
    exact listable (hasOddName_iff.mpr ⟨name, member, by simpa using odd⟩)
  rw [ofMissingAsset_eq sayable, texts]

/-- An odd name is complained about in the place of the asset that is missing. -/
theorem ofMissingAsset_of_odd {tag : Value} (sayable : tag.isSayable = true) (asked : LooseText)
    (odd : release.HasOddName) :
    ∃ index kind, Failure.ofMissingAsset tag (.text asked) release.assetNames
      = .notText index kind := by
  obtain ⟨name, member, strange⟩ := hasOddName_iff.mp odd
  obtain ⟨index, found⟩ : ∃ index,
      release.presentNames.findIdx? (fun name => name.kind != .text) = some index := by
    rw [← Option.isSome_iff_exists, List.findIdx?_isSome, List.any_eq_true]
    exact ⟨name, member, by simpa using strange⟩
  refine ⟨index, (release.presentNames.getD index .null).kind, ?_⟩
  rw [ofMissingAsset_eq sayable, found]

/-- Too long a number is complained about before. -/
theorem ofMissingAsset_of_unsayable {tag : Value} (unsayable : ¬ tag.isSayable = true)
    (asked : Value) : Failure.ofMissingAsset tag asked release.assetNames = .numberTooLong :=
  if_neg (by simp [unsayable])

end Odd

/-! ### What a release is called -/

section Called

/-- What a release is called by: its name, or its number if it has no name. -/
def called (release : Release) : Value :=
  if release.name.isTruthy then release.name else release.number

/-- What a release is called: its name as it is, or its number as text. -/
def title (release : Release) : Value :=
  if release.name.isTruthy then release.name else .text release.number.loose

/-- **The failure of a choice**: a release that can be called lacks the asset, and the numbers of
any other are too long. -/
theorem select_of_missing (missing : release.asset? (.text name) = none) :
    release.select (.text name)
      = if release.called.isSayable then
          .error (Failure.ofMissingAsset release.title (.text name) release.assetNames)
        else .error .numberTooLong := by
  unfold select label called title
  rw [missing]
  by_cases named : release.name.isTruthy = true
  · simp only [if_pos named]
    split
    · rfl
    · rename_i unsayable
      rw [ofMissingAsset_of_unsayable unsayable]
  · simp only [if_neg named]
    by_cases sayable : release.number.isSayable = true
    · rw [if_pos sayable, if_pos sayable]
    · rw [if_neg sayable, if_neg sayable]

theorem isSayable_title (sayable : release.called.isSayable = true) :
    release.title.isSayable = true := by
  unfold called at sayable
  unfold title
  split
  · rename_i named
    rwa [if_pos named] at sayable
  · rfl

end Called

/-! ### The choice -/

/-- **What is promised of a choice**: it is the first asset of the name, and where there is none,
the failure says so and has the names of all assets in order. -/
structure Selects (release : Release) (name : LooseText) (outcome : Except Failure Asset) :
    Prop where
  found : ∀ asset, release.IsFirst name asset → outcome = .ok asset
  missing : (∀ asset ∈ release.assets, asset.name ≠ .text name) →
    outcome = .error (.ofFetch (.assetMissing release.title (.text name) release.assetNames))

/-- **An asset is chosen as promised, unless something is in the way of the failure**: some asset
has the name, or every name that is present is a text and what the release is called by holds no
number too long to be written. -/
theorem select_promised_iff (release : Release) (name : LooseText) :
    release.Selects name (release.select (.text name))
      ↔ (∃ asset ∈ release.assets, asset.name = .text name)
        ∨ ¬ release.HasOddName ∧ release.called.isSayable = true := by
  cases found : release.asset? (.text name) with
  | some asset =>
    rw [select, found]
    have first : release.IsFirst name asset := asset?_eq_some_iff.mp found
    obtain ⟨named, before, after, parts, _⟩ := first
    have member : asset ∈ release.assets := by simp [parts]
    refine iff_of_true ⟨fun other isFirst => ?_, fun none => absurd named (none asset member)⟩
      (.inl ⟨asset, member, named⟩)
    have same : some asset = some other := found.symm.trans (asset?_eq_some_iff.mpr isFirst)
    rw [Option.some.inj same]
  | none =>
    have missing := asset?_eq_none_iff.mp found
    rw [or_iff_right (by rintro ⟨asset, member, named⟩; exact missing asset member named)]
    rw [select_of_missing found]
    constructor
    · intro kept
      have promised := kept.missing missing
      split at promised
      · rename_i sayable
        refine ⟨fun odd => ?_, sayable⟩
        obtain ⟨index, kind, failed⟩ := ofMissingAsset_of_odd (isSayable_title sayable) name odd
        rw [failed] at promised
        cases promised
      · cases promised
    · rintro ⟨listable, sayable⟩
      rw [if_pos sayable]
      refine ⟨fun asset first => ?_, fun _ => ?_⟩
      · obtain ⟨named, before, after, parts, _⟩ := first
        exact absurd named (missing asset (by simp [parts]))
      · rw [ofMissingAsset_of_listable (isSayable_title sayable) name listable]

/-- What describes a release with one asset, whose name is a number. -/
def numberedMembers : List (LooseText × Value) :=
  [("assets", .list [.record [("name", .int 7)]])]

/-- The release. -/
def numberedRelease : Release :=
  ⟨.null, .null, none, [⟨.int 7, .null⟩]⟩

/-- A request for an asset that this release does not have is answered by a complaint about the
number. -/
theorem odd_name_hides_missing_asset :
    Release.ofValue (.record numberedMembers) = .ok numberedRelease
      ∧ numberedRelease.select (.text "tool") = .error (.notText 0 .int)
      ∧ ¬ numberedRelease.Selects "tool" (numberedRelease.select (.text "tool")) := by
  have outcome : numberedRelease.select (.text "tool") = .error (.notText 0 .int) := rfl
  refine ⟨rfl, outcome, fun kept => ?_⟩
  have promised := kept.missing (by simp [numberedRelease])
  rw [outcome] at promised
  cases promised

end Release

end AssetFetch
