/-
**Paths, their text and their names.**

A text denotes a path by the names between its slashes, and every such path is that of its own text.
The last name of a path is cut at its last dot.

* `Path.IsSound`, `isSound_ofText`, `ofText_looseText`: the paths that texts denote, which come back
  when they are written and read again;
* `IsStem`, `isStem_iff`: a name is cut at its last dot where something stands on both sides of it,
  and its stem is what stands before;
* `name_eq_shown`, `finalName_sibling`, `parent_sibling`: the names of a path and of one beside it.
-/

import AssetFetch.Path
import Mathlib.Data.List.TakeWhile
import Mathlib.Tactic.Push

namespace AssetFetch

open AssetFetch.Text

/-! ### Paths as text -/

section Splitting

variable {α : Type} [DecidableEq α] {mark : α} {items stretch rest : List α}

theorem notMem_of_mem_splitOn (member : stretch ∈ splitOn mark items) : mark ∉ stretch := by
  induction items generalizing stretch with
  | nil =>
    simp only [splitOn, List.mem_singleton] at member
    simp [member]
  | cons first rest ih =>
    simp only [splitOn] at member
    split at member
    · rcases List.mem_cons.mp member with rfl | later
      · simp
      · exact ih later
    · rename_i other
      split at member
      · rw [List.mem_singleton.mp member]
        simpa using Ne.symm other
      · rename_i head others cut
        rcases List.mem_cons.mp member with rfl | later
        · have free : mark ∉ head := ih (by simp [cut])
          simp [free, Ne.symm other]
        · exact ih (by simp [cut, later])

theorem splitOn_of_notMem (free : mark ∉ items) : splitOn mark items = [items] := by
  induction items with
  | nil => rfl
  | cons first rest ih =>
    simp only [List.mem_cons, not_or] at free
    simp [splitOn, Ne.symm free.1, ih free.2]

theorem splitOn_append_cons (free : mark ∉ stretch) :
    splitOn mark (stretch ++ mark :: rest) = stretch :: splitOn mark rest := by
  induction stretch with
  | nil => simp [splitOn]
  | cons first stretch ih =>
    simp only [List.mem_cons, not_or] at free
    simp [splitOn, Ne.symm free.1, ih free.2]

theorem splitOn_replicate_append (count : Nat) :
    splitOn mark (List.replicate count mark ++ rest)
      = List.replicate count [] ++ splitOn mark rest := by
  induction count with
  | zero => rfl
  | succ count ih => simp [List.replicate_succ, splitOn, ih]

theorem splitOn_intercalate {stretches : List (List α)} (some : stretches ≠ [])
    (free : ∀ stretch ∈ stretches, mark ∉ stretch) :
    splitOn mark ([mark].intercalate stretches) = stretches := by
  induction stretches with
  | nil => exact absurd rfl some
  | cons first others ih =>
    have head : mark ∉ first := free first (List.mem_cons_self ..)
    cases others with
    | nil => simp [splitOn_of_notMem head]
    | cons second others =>
      have tail := ih (by simp) fun stretch member => free stretch (List.mem_cons_of_mem _ member)
      rw [List.intercalate_cons_cons, List.append_assoc, List.singleton_append,
        splitOn_append_cons head, tail]

end Splitting

namespace Path

section Texts

variable {path : Path} {name : LooseText}

/-- A path that a text can denote: every name says something and has no slash in it. -/
structure IsSound (path : Path) : Prop where
  slashes : path.slashes ≤ 2
  significant : ∀ name ∈ path.names, isSignificant name = true
  free : ∀ name ∈ path.names, slash ∉ name.characters

theorem isSound_ofText (text : LooseText) : (ofText text).IsSound where
  slashes := by
    simp only [ofText, leadingSlashes]
    split <;> omega
  significant name member := (List.mem_filter.mp member).2
  free name member := by
    obtain ⟨stretch, cut, rfl⟩ := List.mem_map.mp (List.mem_filter.mp member).1
    exact notMem_of_mem_splitOn cut

theorem mem_sibling {other : LooseText} (member : other ∈ (path.sibling name).names) :
    other ∈ path.names ∨ other = name := by
  rcases List.mem_append.mp member with inside | last
  · exact Or.inl (List.dropLast_subset _ inside)
  · exact Or.inr (List.mem_singleton.mp last)

theorem IsSound.sibling (sound : path.IsSound) (significant : isSignificant name = true)
    (free : slash ∉ name.characters) : (path.sibling name).IsSound where
  slashes := sound.slashes
  significant other member := by
    rcases mem_sibling member with inside | rfl
    · exact sound.significant other inside
    · exact significant
  free other member := by
    rcases mem_sibling member with inside | rfl
    · exact sound.free other inside
    · exact free

/-- The names of a path with slashes between them. -/
def joined (path : Path) : List LooseChar :=
  [slash].intercalate (path.names.map LooseText.characters)

theorem takeWhile_joined (sound : path.IsSound) : path.joined.takeWhile (· == slash) = [] := by
  unfold joined
  cases named : path.names with
  | nil => rfl
  | cons first others =>
    have member : first ∈ path.names := by simp [named]
    have significant := sound.significant first member
    have free := sound.free first member
    obtain ⟨characters⟩ := first
    cases characters with
    | nil => cases significant
    | cons initial more =>
      have other : initial ≠ slash := fun same => free (by simp [same])
      cases others <;> simp [other]

theorem leadingSlashes_joined (sound : path.IsSound) :
    leadingSlashes (List.replicate path.slashes slash ++ path.joined) = path.slashes := by
  have taken : (List.replicate path.slashes slash ++ path.joined).takeWhile (· == slash)
      = List.replicate path.slashes slash := by
    rw [List.takeWhile_append_of_pos (by simp), takeWhile_joined sound, List.append_nil]
  simp only [leadingSlashes, taken, List.length_replicate, if_pos sound.slashes]

theorem significant_splitOn_joined (sound : path.IsSound) :
    ((splitOn slash path.joined).map LooseText.mk).filter isSignificant = path.names := by
  unfold joined
  by_cases unnamed : path.names = []
  · rw [unnamed]
    decide
  · have free : ∀ stretch ∈ path.names.map LooseText.characters, slash ∉ stretch := by
      intro stretch member
      obtain ⟨name, inside, rfl⟩ := List.mem_map.mp member
      exact sound.free name inside
    rw [splitOn_intercalate (by simpa using unnamed) free, List.map_map]
    exact (congrArg _ (List.map_id _)).trans (List.filter_eq_self.mpr sound.significant)

/-- **A path comes back when it is written and read again.** -/
theorem ofText_looseText (sound : path.IsSound) : ofText path.looseText = path := by
  unfold looseText
  split
  · rename_i bare
    obtain ⟨slashes, names⟩ := path
    simp only [Bool.and_eq_true, beq_iff_eq, List.isEmpty_iff] at bare
    obtain ⟨rfl, rfl⟩ := bare
    decide
  · have leading := leadingSlashes_joined sound
    have empty : ((List.replicate path.slashes ([] : List LooseChar)).map LooseText.mk).filter
        isSignificant = [] := by
      rw [List.map_replicate]
      exact List.filter_eq_nil_iff.mpr fun name member => by
        rw [(List.mem_replicate.mp member).2]
        decide
    have names : ((splitOn slash (List.replicate path.slashes slash ++ path.joined)).map
        LooseText.mk).filter isSignificant = path.names := by
      rw [splitOn_replicate_append, List.map_append, List.filter_append, empty,
        significant_splitOn_joined sound, List.nil_append]
    unfold joined at leading names
    simp only [ofText, leading, names]

theorem ofText_of_free (free : slash ∉ name.characters) (significant : isSignificant name = true) :
    ofText name = ⟨0, [name]⟩ := by
  have sound : IsSound ⟨0, [name]⟩ :=
    ⟨Nat.zero_le 2, by simpa using significant, by simpa using free⟩
  simpa [looseText] using ofText_looseText sound

end Texts

/-! ### Stems -/

section Stems

variable {name stem : LooseText} {before suffix : List LooseChar}

/-- What is left of a name without its last suffix. A suffix stands behind the last dot and is not
empty, and neither is what stands before that dot; a name without such a suffix is left whole. -/
inductive IsStem : LooseText → LooseText → Prop
  | cut {before suffix : List LooseChar} (begun : before ≠ []) (ended : suffix ≠ [])
      (last : dot ∉ suffix) : IsStem ⟨before ++ dot :: suffix⟩ ⟨before⟩
  | whole {name : LooseText} (uncut : ∀ before suffix, dot ∉ suffix →
      name.characters = before ++ dot :: suffix → before = [] ∨ suffix = []) :
      IsStem name name

theorem exists_last_dot {characters : List LooseChar} (member : dot ∈ characters) :
    ∃ before suffix, dot ∉ suffix ∧ characters = before ++ dot :: suffix := by
  obtain ⟨after, ahead, split, free⟩ := List.eq_append_cons_of_mem (List.mem_reverse.mpr member)
  refine ⟨ahead.reverse, after.reverse, by simpa using free, ?_⟩
  have turned := congrArg List.reverse split
  simpa using turned

/-- A name without a dot is its own stem. -/
theorem stemOf_of_notMem (free : dot ∉ name.characters) : stemOf name = name := by
  have none : name.characters.reverse.dropWhile (· != dot) = [] := by
    rw [List.dropWhile_eq_nil_iff]
    intro character inside
    exact bne_iff_ne.mpr fun same => free (same ▸ List.mem_reverse.mp inside)
  simp [stemOf, none]

/-- What stands before the last dot of a name is its stem, unless one side of the dot is empty. -/
theorem stemOf_split (last : dot ∉ suffix) :
    stemOf ⟨before ++ dot :: suffix⟩
      = if before = [] ∨ suffix = [] then ⟨before ++ dot :: suffix⟩ else ⟨before⟩ := by
  have passed : ∀ character ∈ suffix.reverse, (character != dot) = true := fun _ inside =>
    bne_iff_ne.mpr fun same => last (same ▸ List.mem_reverse.mp inside)
  have turned : (before ++ dot :: suffix).reverse
      = suffix.reverse ++ dot :: before.reverse := by simp
  have taken : (suffix.reverse ++ dot :: before.reverse).takeWhile (· != dot)
      = suffix.reverse := by
    rw [List.takeWhile_append_of_pos passed]
    simp
  have dropped : (suffix.reverse ++ dot :: before.reverse).dropWhile (· != dot)
      = dot :: before.reverse := by
    rw [List.dropWhile_append_of_pos passed]
    simp
  simp only [stemOf, turned, taken, dropped]
  by_cases empty : before = [] ∨ suffix = []
  · rw [if_pos (by simpa [or_comm] using empty), if_pos empty]
  · rw [if_neg (by simpa [or_comm] using empty), if_neg empty]
    simp

theorem stemOf_of_uncut (uncut : ∀ before suffix, dot ∉ suffix →
    name.characters = before ++ dot :: suffix → before = [] ∨ suffix = []) :
    stemOf name = name := by
  by_cases member : dot ∈ name.characters
  · obtain ⟨before, suffix, last, split⟩ := exists_last_dot member
    have spelled : name = ⟨before ++ dot :: suffix⟩ := by rw [← split]
    rw [spelled, stemOf_split last, if_pos (uncut before suffix last split)]
  · exact stemOf_of_notMem member

theorem isStem_stemOf (name : LooseText) : IsStem name (stemOf name) := by
  by_cases uncut : ∀ before suffix, dot ∉ suffix →
      name.characters = before ++ dot :: suffix → before = [] ∨ suffix = []
  · rw [stemOf_of_uncut uncut]
    exact .whole uncut
  · push Not at uncut
    obtain ⟨before, suffix, last, split, begun, ended⟩ := uncut
    have spelled : name = ⟨before ++ dot :: suffix⟩ := by rw [← split]
    rw [spelled, stemOf_split last, if_neg (by simp [begun, ended])]
    exact .cut begun ended last

/-- **The stem of a name** is what is left of it without its last suffix. -/
theorem isStem_iff : IsStem name stem ↔ stem = stemOf name := by
  constructor
  · intro isStem
    cases isStem with
    | cut begun ended last => rw [stemOf_split last, if_neg (by simp [begun, ended])]
    | whole uncut => exact (stemOf_of_uncut uncut).symm
  · rintro rfl
    exact isStem_stemOf name

/-- **A name is its stem, or its stem, a dot and a suffix.** -/
theorem IsStem.eq_or (isStem : IsStem name stem) :
    stem = name ∨ ∃ suffix, name.characters = stem.characters ++ dot :: suffix := by
  cases isStem with
  | cut _ _ _ => exact Or.inr ⟨_, rfl⟩
  | whole _ => exact Or.inl rfl

theorem slash_notMem_stemOf (free : slash ∉ name.characters) :
    slash ∉ (stemOf name).characters := by
  rcases (isStem_stemOf name).eq_or with all | ⟨suffix, cut⟩
  · rwa [all]
  · rw [cut] at free
    exact fun member => free (List.mem_append_left _ member)

end Stems

/-! ### Final names -/

section Names

variable {path : Path} {name : LooseText}

theorem name_eq_shown (path : Path) : path.name = path.finalName.shown := by
  unfold name finalName
  cases path.names.getLast? <;> rfl

theorem name_eq_empty_iff : path.name = "" ↔ path.finalName = "" := by
  rw [name_eq_shown]
  obtain ⟨characters⟩ := path.finalName
  simp [LooseText.shown, LooseText.ofString]

theorem finalName_mem (named : path.finalName ≠ "") : path.finalName ∈ path.names := by
  unfold finalName at named ⊢
  cases final : path.names.getLast? with
  | none => simp [final] at named
  | some name => simpa using List.mem_of_getLast? final

theorem finalName_sibling (path : Path) (name : LooseText) :
    (path.sibling name).finalName = name := by
  simp [sibling, finalName]

theorem parent_sibling (path : Path) (name : LooseText) :
    (path.sibling name).parent = path.parent := by
  simp [sibling, parent]

theorem isSignificant_of_length (long : 1 < name.characters.length) :
    isSignificant name = true := by
  simp only [isSignificant, Bool.and_eq_true, bne_iff_ne]
  constructor
  all_goals
    rintro rfl
    exact absurd long (by decide)

end Names

end Path

end AssetFetch
