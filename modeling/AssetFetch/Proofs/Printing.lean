/-
**What can be printed.**

* `LooseText.IsPlain`: a text without halves of pairs, and `unencodable?_eq_none_iff`: nothing else
  is printed;
* `Path.IsPlain`: paths of plain names, which are plain texts. `isPlain_of_baseDirectory`: so are
  the application's own;
* `attempt_printLine_of_plain`, `attempt_printLine_of_halves`: a line is printed, or nothing of it;
* `App.attempt_printAssets`: **the lines of a list are printed up to the first that cannot be.**
-/

import AssetFetch.App
import AssetFetch.Proofs.Path
import AssetFetch.Proofs.Runs

namespace AssetFetch

/-! ### Texts -/

namespace Text.LooseText

variable {text other : LooseText}

/-- A text without halves of pairs. -/
def IsPlain (text : LooseText) : Prop :=
  ∀ character ∈ text.characters, character.isHalf = false

theorem firstHalves?_eq_none_iff (position : Nat) (characters : List LooseChar) :
    firstHalves? position characters = none
      ↔ ∀ character ∈ characters, character.isHalf = false := by
  induction characters generalizing position with
  | nil => simp [firstHalves?]
  | cons first rest ih => cases first <;> simp [firstHalves?, LooseChar.isHalf, ih]

theorem unencodable?_eq_none_iff : text.unencodable? = none ↔ text.IsPlain :=
  firstHalves?_eq_none_iff 0 text.characters

theorem isPlain_ofString (text : String) : (ofString text).IsPlain := by
  simp [IsPlain, ofString, LooseChar.isHalf]

theorem isPlain_append_iff : (text ++ other).IsPlain ↔ text.IsPlain ∧ other.IsPlain := by
  simp [IsPlain, characters_append, or_imp, forall_and]

end Text.LooseText

open Text

/-! ### Paths -/

namespace Path

variable {path : Path} {text : LooseText}

/-- A path of plain names. -/
def IsPlain (path : Path) : Prop :=
  ∀ name ∈ path.names, name.IsPlain

theorem mem_of_mem_splitOn {α : Type} [DecidableEq α] {mark item : α} {items stretch : List α}
    (member : stretch ∈ splitOn mark items) (inside : item ∈ stretch) : item ∈ items := by
  induction items generalizing stretch with
  | nil =>
    obtain rfl := List.mem_singleton.mp member
    exact inside
  | cons first rest ih =>
    simp only [splitOn] at member
    split at member
    · rcases List.mem_cons.mp member with rfl | later
      · cases inside
      · exact List.mem_cons_of_mem _ (ih later inside)
    · split at member
      · obtain rfl := List.mem_singleton.mp member
        exact List.mem_cons.mpr (.inl (List.mem_singleton.mp inside))
      · rename_i head others cut
        rcases List.mem_cons.mp member with rfl | later
        · rcases List.mem_cons.mp inside with rfl | within
          · exact List.mem_cons_self
          · exact List.mem_cons_of_mem _ (ih (by simp [cut]) within)
        · exact List.mem_cons_of_mem _ (ih (by simp [cut, later]) inside)

/-- Plain text makes a plain path. -/
theorem isPlain_ofText (plain : text.IsPlain) : (ofText text).IsPlain := by
  intro name member
  obtain ⟨stretch, cut, rfl⟩ := List.mem_map.mp (List.mem_filter.mp member).1
  exact fun character inside => plain character (mem_of_mem_splitOn cut inside)

theorem IsPlain.child (above : path.IsPlain) (plain : text.IsPlain) :
    (path.child text).IsPlain := by
  have below := isPlain_ofText plain
  unfold Path.child
  simp only
  split
  · exact below
  · exact fun name member => (List.mem_append.mp member).elim (above name) (below name)

/-- A plain path is a plain text. -/
theorem IsPlain.looseText (plain : path.IsPlain) : path.looseText.IsPlain := by
  have joined : ∀ names : List LooseText, (∀ name ∈ names, name.IsPlain) →
      ∀ character ∈ [slash].intercalate (names.map LooseText.characters),
        character.isHalf = false := by
    intro names each
    induction names with
    | nil => simp
    | cons name rest ih =>
      obtain ⟨here, others⟩ := List.forall_mem_cons.mp each
      cases rest with
      | nil =>
        rw [List.map_singleton, List.intercalate_singleton]
        exact here
      | cons second rest =>
        rw [List.map_cons, List.map_cons, List.intercalate_cons_cons]
        intro character member
        rcases List.mem_append.mp member with member | later
        · rcases List.mem_append.mp member with first | mark
          · exact here character first
          · obtain rfl := List.mem_singleton.mp mark
            rfl
        · exact ih others character later
  unfold Path.looseText
  split
  · exact LooseText.isPlain_ofString "."
  · intro character member
    rcases List.mem_append.mp member with lead | inside
    · obtain rfl := List.eq_of_mem_replicate lead
      rfl
    · exact joined path.names plain character inside

end Path

namespace AppPaths

/-- **The application's own paths are plain**, as the variables of the environment are. -/
theorem isPlain_of_baseDirectory {environment : Environment} {path : Path}
    (named : baseDirectory environment = .ok path) : path.IsPlain := by
  have plain : ∀ text : String, (Path.ofText text).IsPlain := fun text =>
    Path.isPlain_ofText (LooseText.isPlain_ofString text)
  have below : ∀ {path : Path}, path.IsPlain → ∀ text : String, (path.child text).IsPlain :=
    fun above text => above.child (LooseText.isPlain_ofString text)
  have chosen : ∀ (given : Option String) (otherwise : Path), otherwise.IsPlain →
      ((given.map fun text : String => Path.ofText text).getD otherwise).IsPlain := by
    rintro (_ | text) otherwise usual
    · simpa only [Option.map_none, Option.getD_none] using usual
    · simpa only [Option.map_some, Option.getD_some] using plain text
  have home : ∀ path, homeDirectory environment = .ok path → path.IsPlain := by
    intro path found
    unfold homeDirectory at found
    simp only at found
    split at found
    · rw [← Except.ok.inj found]
      exact plain _
    · split at found
      · contradiction
      · rw [← Except.ok.inj found]
        exact plain _
  unfold baseDirectory at named
  cases found : homeDirectory environment with
  | error failure =>
    rw [found] at named
    cases named
  | ok directory =>
    have above := home directory found
    rw [found] at named
    rw [← Except.ok.inj named]
    split
    · exact chosen environment.appData _ (below (below above _) _)
    · exact below (below above _) _
    · exact chosen environment.configHome _ (below above _)

theorem isPlain_directory {environment : Environment} {directory : Path}
    (named : (baseDirectory environment).map (·.child applicationName) = .ok directory) :
    directory.IsPlain := by
  cases base : baseDirectory environment with
  | error failure =>
    rw [base] at named
    cases named
  | ok path =>
    rw [base] at named
    rw [← Except.ok.inj named]
    exact (isPlain_of_baseDirectory base).child (LooseText.isPlain_ofString _)

end AppPaths

/-! ### Lines -/

section Lines

variable {text : LooseText}

theorem attempt_printLine_of_plain (plain : text.IsPlain) (world : World) :
    world.attempt (printLine text)
      = (.ok (), { world with output := world.output ++ (text.shown ++ "\n") }) := by
  have whole : (text ++ ("\n" : LooseText)).unencodable? = none :=
    LooseText.unencodable?_eq_none_iff.mpr
      (LooseText.isPlain_append_iff.mpr ⟨plain, LooseText.isPlain_ofString _⟩)
  show world.print (text ++ ("\n" : LooseText)) = _
  unfold World.print
  rw [whole, LooseText.shown_append, LooseText.shown_ofString]

/-- Nothing of a line is printed if it cannot be printed as a whole. -/
theorem attempt_printLine_of_halves (halves : ¬ text.IsPlain) (world : World) :
    ∃ fault, world.attempt (printLine text) = (.error (.unencodable fault), world) := by
  cases found : (text ++ ("\n" : LooseText)).unencodable? with
  | none =>
    have plain := LooseText.unencodable?_eq_none_iff.mp found
    exact absurd (LooseText.isPlain_append_iff.mp plain).1 halves
  | some fault =>
    refine ⟨fault, ?_⟩
    show world.print (text ++ ("\n" : LooseText)) = _
    unfold World.print
    rw [found]

/-- A line is printed, or nothing happens. -/
theorem attempt_printLine_cases (text : LooseText) (world : World) :
    (text.IsPlain ∧ world.attempt (printLine text)
        = (.ok (), { world with output := world.output ++ (text.shown ++ "\n") }))
      ∨ ∃ fault, world.attempt (printLine text) = (.error (.unencodable fault), world) := by
  by_cases plain : text.IsPlain
  · exact .inl ⟨plain, attempt_printLine_of_plain plain world⟩
  · exact .inr (attempt_printLine_of_halves plain world)

end Lines

namespace App

/-- The lines of a list of assets. -/
def assetLines (assets : List Asset) : String :=
  String.join (assets.map fun asset => (assetLine asset).shown ++ "\n")

theorem assetLines_cons (asset : Asset) (assets : List Asset) :
    assetLines (asset :: assets) = (assetLine asset).shown ++ "\n" ++ assetLines assets := by
  simp [assetLines]

/-- **A list is printed whole, or up to the first line that cannot be printed.** -/
theorem attempt_printAssets (assets : List Asset) (world : World) :
    (∀ asset ∈ assets, (assetLine asset).IsPlain)
        ∧ world.attempt (printAssets assets)
          = (.ok (), { world with output := world.output ++ assetLines assets })
      ∨ ∃ before asset after fault, assets = before ++ asset :: after
        ∧ (∀ asset ∈ before, (assetLine asset).IsPlain) ∧ ¬ (assetLine asset).IsPlain
        ∧ world.attempt (printAssets assets)
          = (.error (.unencodable fault),
            { world with output := world.output ++ assetLines before }) := by
  induction assets generalizing world with
  | nil =>
    refine .inl ⟨nofun, ?_⟩
    show ((.ok (), world) : Except Failure Unit × World) = _
    rw [show assetLines [] = "" from rfl, String.append_empty]
  | cons asset assets ih =>
    have steps : printAssets (asset :: assets) = (do
        printLine (assetLine asset)
        printAssets assets) := rfl
    rw [steps]
    by_cases plain : (assetLine asset).IsPlain
    · have printed := attempt_printLine_of_plain plain world
      have joined : ∀ printed, world.output ++ ((assetLine asset).shown ++ "\n")
          ++ assetLines printed = world.output ++ assetLines (asset :: printed) := by
        intro printed
        rw [assetLines_cons, String.append_assoc]
      rw [World.attempt_bind_of_ok printed]
      rcases ih { world with output := world.output ++ ((assetLine asset).shown ++ "\n") } with
        ⟨all, ok⟩ | ⟨before, other, after, fault, rfl, all, halves, failed⟩
      · exact .inl ⟨List.forall_mem_cons.mpr ⟨plain, all⟩, by rw [ok]; simp only [joined]⟩
      · exact .inr ⟨asset :: before, other, after, fault, rfl,
          List.forall_mem_cons.mpr ⟨plain, all⟩, halves, by rw [failed]; simp only [joined]⟩
    · obtain ⟨fault, failed⟩ := attempt_printLine_of_halves plain world
      refine .inr ⟨[], asset, assets, fault, rfl, nofun, plain, ?_⟩
      rw [World.attempt_bind_of_error failed, show assetLines [] = "" from rfl,
        String.append_empty]

end App

end AssetFetch
