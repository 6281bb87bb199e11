/-
**What a run may leave of a destination.**

* `FileTree.Untouched`: a destination that has been left alone;
* `App.IsOwn`: the files that are the application's own;
* `App.grown_of_setOut_error`: a run that does not set out makes directories, and nothing else;
* `App.Begun`, `exists_begun`: what there is when a run has set out;
* `Begun.untouched`: **what is done then leaves a destination alone** if only the application's own
  files differ at it.
-/

import AssetFetch.Proofs.Replies
import AssetFetch.Proofs.Settings.Failing

namespace AssetFetch

open AppPaths FileTree World

/-! ### Destinations -/

/-- A destination has been left alone: it names what it named, and what it names is as it was,
unless that is one of one's own files or a directory that is new. -/
structure FileTree.Untouched (own : Path → Prop) (before after : FileTree) (destination : Path) :
    Prop where
  placed : ∀ place, before.placeOf destination = .ok place → after.placeOf destination = .ok place
  kept : ∀ location, after.placeOf destination = .ok (.named location) →
    (∃ path, own path ∧ after.placeOf path = .ok (.named location))
      ∨ after.get? location = before.get? location
      ∨ (before.get? location = none ∧ after.get? location = some .directory)

theorem FileTree.untouched_of_grownBut {own : Path → Prop} {changed : Location → Prop}
    {before after : FileTree} {destination : Path} (grown : GrownBut changed before after)
    (inside : ∀ location, after.placeOf destination = .ok (.named location) → changed location →
      ∃ path, own path ∧ after.placeOf path = .ok (.named location)) :
    Untouched own before after destination where
  placed _ placed := placeOf_of_directories grown.directories placed
  kept location placed := by
    by_cases here : changed location
    · exact .inl (inside location placed here)
    · exact .inr (grown.elsewhere location here)

/-- In a directory that is there, a path names the same whatever directories are made. -/
theorem FileTree.placeOf_of_parent_there {tree other : FileTree} {path : Path}
    (there : tree.status path.parent = .ok .directory)
    (kept : ∀ place, tree.get? place = some .directory → other.get? place = some .directory) :
    other.placeOf path = tree.placeOf path := by
  rcases placeOf_of_parent there with ⟨fault, refused⟩ | ⟨place, placed⟩
  · simp only [placeOf, refused]
  · rw [placeOf_of_directories kept placed, placed]

namespace App

/-- The settings file and the draft that takes its place. -/
def IsSettingsFile (directory path : Path) : Prop :=
  path = settingsIn directory ∨ path = draftIn directory

/-- The files that are the application's own: the log, and in a run about settings the settings file
with its draft. -/
def IsOwn (arguments : Arguments) (environment : Environment) (path : Path) : Prop :=
  ∃ directory, directoryOf environment = .ok directory
    ∧ (path = logIn directory ∨ isAboutSettings arguments = true ∧ IsSettingsFile directory path)

/-! ### Setting out -/

section SettingOut

variable {arguments : Arguments} {environment : Environment} {world later begun : World}
  {path directory destination : Path} {settings : Settings} {failure : Failure} {place : Location}
  {paths : Path → Prop} {changed : Location → Prop}

theorem grown_of_directLog_error {value : Value}
    (failed : world.attempt (discard (directLog value (some path) true))
      = (.error failure, later)) : world.tree.Grown later.tree := by
  cases known : levelOf value with
  | error other =>
    simp only [directLog, known] at failed
    cases failed
    exact .refl _
  | ok level =>
    rw [attempt_directLog known] at failed
    have made := (grownTo_ensureDirectory path.parent (world.setUpLog level.value true)).grown
    split at failed
    · rename_i ensured
      rw [ensured] at made
      cases failed
      exact made
    · rename_i ready ensured
      rw [ensured] at made
      unfold openLog at failed
      split at failed
      · cases failed
        exact made
      · cases failed

/-- **A run that does not set out** has made directories, and nothing else. -/
theorem grown_of_setOut_error
    (failed : world.attempt (setOut arguments environment) = (.error failure, later)) :
    world.tree.Grown later.tree := by
  unfold setOut at failed
  rw [attempt_bind] at failed
  have first := (grownTo_of_only (only_settingsPath environment) world).grown
  cases pathed : world.attempt (settingsPath environment) with
  | mk result middle =>
    rw [pathed] at failed first
    cases result with
    | error other =>
      cases failed
      exact first
    | ok path =>
      simp only at failed
      rw [attempt_bind, SettingsStore.attempt_readFile] at failed
      split at failed
      · rename_i read
        obtain ⟨_, rfl⟩ := Prod.mk.inj read
        have second := (grownTo_of_only (only_logPath environment) middle).grown
        rw [attempt_bind] at failed
        cases logged : middle.attempt (logPath environment) with
        | mk result ready =>
          rw [logged] at failed second
          cases result with
          | error other =>
            cases failed
            exact first.trans second
          | ok log =>
            simp only at failed
            rw [attempt_bind] at failed
            split at failed
            · cases failed
            · rename_i directed
              cases failed
              exact (first.trans second).trans (grown_of_directLog_error directed)
      · rename_i read
        obtain ⟨_, rfl⟩ := Prod.mk.inj read
        cases failed
        exact first

/-- What there is when a run has set out: the directory of the application, the place of the log,
and nothing printed. -/
structure Begun (environment : Environment) (world begun : World) (directory : Path)
    (place : Location) : Prop where
  named : directoryOf environment = .ok directory
  there : begun.tree.status directory = .ok .directory
  located : begun.tree.placeOf (logIn directory) = .ok (.named place)
  logFile : begun.logFile = some place
  grown : GrownBut (· = place) world.tree begun.tree
  onward : world.Onward begun
  output : begun.output = world.output

theorem exists_begun
    (out : world.attempt (setOut arguments environment) = (.ok (path, settings), begun)) :
    (world.attempt (loadedSettings environment)).1 = .ok settings
      ∧ ∃ directory place, path = settingsIn directory
        ∧ Begun environment world begun directory place := by
  have found := exists_setOut out
  obtain ⟨directory, named, rfl, there⟩ := found.seat
  obtain ⟨other, place, _, _, also, located, logFile, _, grown⟩ := found.log
  obtain rfl : directory = other := Except.ok.inj (named.symm.trans also)
  have after : begun = (world.run (setOut arguments environment).outcome).2 :=
    (congrArg Prod.snd out).symm
  refine ⟨found.loaded, directory, place, rfl, named, there, (locate_eq_named_iff.mp located).1,
    logFile, grown, after ▸ onward_run _ world, after ▸ output_run ?_ world⟩
  exact (local_setOut arguments environment).mono fun _ => Effect.IsLocal.unprinted

/-- The place of the log, and all those with the name of one of the files. -/
def LogOrNamed (place : Location) (paths : Path → Prop) (location : Location) : Prop :=
  location = place ∨ ∃ path, paths path ∧ location.getLast? = some path.fileName

namespace Begun

variable (begins : Begun environment world begun directory place)

include begins

theorem getLast?_place : place.getLast? = some (logIn directory).fileName :=
  getLast?_of_placed begins.located

/-- What differs afterwards is at the place of the log or has the name of one of the files. -/
theorem confined (paths : Path → Prop) : Confined paths (LogOrNamed place paths) begun where
  named path own _ _ location placed := .inr ⟨path, own, getLast?_of_placed placed⟩
  logged location inside := by
    rw [begins.logFile] at inside
    exact .inl (Option.some.inj inside).symm

/-- **A destination is left alone** if what differs at it is one of the application's own files. -/
theorem untouched (grown : GrownBut changed begun.tree later.tree)
    (inside : ∀ location, later.tree.placeOf destination = .ok (.named location) →
      changed location → location = place ∨ ∃ path, IsOwn arguments environment path
        ∧ later.tree.placeOf path = .ok (.named location)) :
    Untouched (IsOwn arguments environment) world.tree later.tree destination := by
  have whole : GrownBut (fun location => location = place ∨ changed location) world.tree
      later.tree :=
    (begins.grown.mono fun _ => .inl).trans (grown.mono fun _ => .inr)
  have log : ∃ path, IsOwn arguments environment path
      ∧ later.tree.placeOf path = .ok (.named place) :=
    ⟨logIn directory, ⟨directory, begins.named, .inl rfl⟩,
      placeOf_of_directories grown.directories begins.located⟩
  refine untouched_of_grownBut whole fun location placed here => ?_
  rcases here with rfl | here
  · exact log
  · rcases inside location placed here with rfl | own
    · exact log
    · exact own

end Begun

end SettingOut

end App

end AssetFetch
