/-
**The settings file in a world.**

* `Spare`, `openForWriting_spare`, `rename_put`: a place for a file that can be written and read,
  and what becomes of it when a draft is written there and moved over another file;
* `Sites`, `Sites.Ready`: the application's directory, and where its files are or can be;
* `StandsFor`: the settings that an entry stands for; no file stands for the defaults;
* `Sites.Holds`: a world whose settings file stands for some settings and in which nothing keeps it
  from being written or removed. One lemma for each thing that is done to it: lines for the log
  leave it (`Holds.log`), reading tells what it says (`Holds.readFile`), removing makes it say the
  defaults (`Holds.removeFile`), and **replacing makes it say the new settings**
  (`Holds.replaceFile`).
-/

import AssetFetch.Proofs.Directories
import AssetFetch.Proofs.Settings.File

namespace AssetFetch

/-! ### Files that can be written -/

namespace FileTree

section Spare

variable {tree : FileTree} {path target : Path} {place location : Location} {bytes : Bytes}
  {mode : Nat}

/-- Nothing, or a file that its owner may write. -/
def Writable (entry : Option Entry) : Prop :=
  ∀ found ∈ entry, ∃ content mode, found = .file content mode ∧ isWritable mode = true

/-- Nothing, or a file that its owner may read and write. -/
def Spare (entry : Option Entry) : Prop :=
  ∀ found ∈ entry, ∃ content mode, found = .file content mode ∧ isReadable mode = true
    ∧ isWritable mode = true

theorem Spare.writable {entry : Option Entry} (spare : Spare entry) : Writable entry := by
  intro found member
  obtain ⟨content, mode, rfl, _, writable⟩ := spare found member
  exact ⟨content, mode, rfl, writable⟩

theorem Writable.ne_directory {entry : Option Entry} (writable : Writable entry) :
    entry ≠ some .directory := by
  rintro rfl
  obtain ⟨_, _, same, _⟩ := writable .directory rfl
  cases same

/-- Writing leaves the owner's permissions. -/
theorem owner_modeAfterWriting (privileged : Bool) (mode : Nat) :
    isReadable (modeAfterWriting privileged mode) = isReadable mode
      ∧ isWritable (modeAfterWriting privileged mode) = isWritable mode := by
  unfold isReadable isWritable modeAfterWriting
  cases privileged with
  | true => exact ⟨rfl, rfl⟩
  | false =>
    by_cases group : mode &&& 0o010 = 0
    · simp [group, Nat.and_assoc]
    · simp [group, Nat.and_assoc]

theorem owner_modeWith (privileged : Bool) (bytes : Bytes) (mode : Nat) :
    isReadable (modeWith privileged bytes mode) = isReadable mode
      ∧ isWritable (modeWith privileged bytes mode) = isWritable mode := by
  unfold modeWith
  split
  · exact ⟨rfl, rfl⟩
  · exact owner_modeAfterWriting privileged mode

theorem mayRead_of_readable (readable : isReadable mode = true) : tree.mayRead mode = true := by
  rw [mayRead, readable, Bool.or_true]

theorem mayWrite_of_writable (writable : isWritable mode = true) : tree.mayWrite mode = true := by
  rw [mayWrite, writable, Bool.or_true]

/-- Opening a file that can be written, from its start. -/
theorem openForWriting_spare (located : tree.locate path = .ok (.named place))
    (spare : Spare (tree.get? place)) :
    ∃ mode, isReadable mode = true ∧ isWritable mode = true
      ∧ tree.openForWriting path false = .ok (place, tree.put place (.file [] mode)) := by
  unfold openForWriting
  simp only [located]
  cases found : tree.get? place with
  | none => exact ⟨newMode plainMode, by decide, by decide, rfl⟩
  | some entry =>
    obtain ⟨content, mode, rfl, readable, writable⟩ := spare entry found
    obtain ⟨reads, writes⟩ := owner_modeAfterWriting tree.privileged mode
    refine ⟨modeAfterWriting tree.privileged mode, reads.trans readable, writes.trans writable, ?_⟩
    simp [mayWrite_of_writable writable]

/-- Opening a file that can be written, to add to it. -/
theorem openForWriting_writable (located : tree.locate path = .ok (.named place))
    (writable : Writable (tree.get? place)) :
    ∃ content mode, isWritable mode = true
      ∧ tree.openForWriting path true = .ok (place, tree.put place (.file content mode)) := by
  unfold openForWriting
  simp only [located]
  cases found : tree.get? place with
  | none => exact ⟨[], newMode plainMode, by decide, rfl⟩
  | some entry =>
    obtain ⟨content, mode, rfl, writes⟩ := writable entry found
    refine ⟨content, mode, writes, ?_⟩
    simp [mayWrite_of_writable writes]

/-- **A file that has been written takes another's place**, and leaves its own. -/
theorem rename_put (located : tree.locate path = .ok (.named place))
    (free : tree.get? place ≠ some .directory)
    (destination : tree.locate target = .ok (.named location))
    (takes : tree.get? location ≠ some .directory) (apart : place ≠ location) :
    (tree.put place (.file bytes mode)).rename path target
      = .ok ((tree.erase place).put location (.file bytes mode)) := by
  have kept := directories_put free (.file bytes mode)
  obtain ⟨placed, short⟩ := locate_eq_named_iff.mp (locate_of_directories kept located)
  obtain ⟨found, fits⟩ := locate_eq_named_iff.mp (locate_of_directories kept destination)
  have here : (tree.put place (.file bytes mode)).get? place = some (.file bytes mode) :=
    get?_put_self (not_given_of_ne_directory free)
  have there : (tree.put place (.file bytes mode)).get? location = tree.get? location :=
    get?_put_of_ne apart.symm
  have differ : (place == location) = false := beq_eq_false_iff_ne.mpr apart
  unfold rename
  simp only [placed, found, short, fits, here, there, differ, Bool.false_eq_true, if_false,
    erase_put]

end Spare

end FileTree

namespace World

open FileTree

section Drafts

variable {world later : World} {tree : FileTree} {path : Path} {place : Location}

/-- Opening a file from its start does what it does to the files. -/
theorem attempt_overwrite_of_opened
    (opened : world.tree.openForWriting path false = .ok (place, tree)) :
    world.attempt (Files.overwrite path) = (.ok (), world.withTree tree) := by
  show world.onFile (.overwrite path) = _
  simp only [onFile, opened]
  rfl

theorem attempt_overwrite_of_closed {fault : FileFault}
    (closed : world.tree.openForWriting path false = .error fault) :
    world.attempt (Files.overwrite path) = (.error (.ofFile [path] fault), world) := by
  show world.onFile (.overwrite path) = _
  simp only [onFile, closed]
  rfl

/-- What has been opened from its start could be opened. -/
theorem exists_of_attempt_overwrite (ok : world.attempt (Files.overwrite path) = (.ok (), later)) :
    ∃ place tree, world.tree.openForWriting path false = .ok (place, tree)
      ∧ later = world.withTree tree := by
  cases opened : world.tree.openForWriting path false with
  | error fault =>
    rw [attempt_overwrite_of_closed opened] at ok
    cases ok
  | ok found =>
    obtain ⟨place, tree⟩ := found
    rw [attempt_overwrite_of_opened opened] at ok
    cases ok
    exact ⟨place, tree, rfl, rfl⟩

/-- Bytes are added to a file that has been put where a path leads. -/
theorem attempt_append_put (accepts : world.tree.Accepts path place) (content bytes : Bytes)
    (mode : Nat) :
    (world.withTree (world.tree.put place (.file content mode))).attempt (Files.append path bytes)
      = (.ok (), world.withTree (world.tree.put place
          (.file (content ++ bytes) (modeWith world.tree.privileged bytes mode)))) := by
  show (world.withTree (world.tree.put place (.file content mode))).onFile (.append path bytes) = _
  simp only [onFile, withTree_tree, accepts.append_put]
  rfl

end Drafts

end World

/-! ### Where the files of the application are -/

namespace AppPaths

/-- The settings file in the application's directory. -/
def settingsIn (directory : Path) : Path := directory.child "settings.json"

/-- The file that is written before it takes the settings file's place. -/
def draftIn (directory : Path) : Path := (settingsIn directory).sibling "settings.json.tmp"

/-- The directory of log files. -/
def logsIn (directory : Path) : Path := directory.child "logs"

/-- The log file. -/
def logIn (directory : Path) : Path := (logsIn directory).child "fetcher.log"

variable (directory : Path)

/-- A plain name is one more name of a path. -/
theorem child_of_plain {name : Text.LooseText} (plain : Path.ofText name = ⟨0, [name]⟩) :
    directory.child name = { directory with names := directory.names ++ [name] } := by
  rw [Path.child, plain]
  rfl

theorem settingsIn_eq :
    settingsIn directory
      = { directory with names := directory.names ++ [Text.LooseText.ofString "settings.json"] } :=
  child_of_plain directory (by decide +kernel)

theorem logIn_eq :
    logIn directory
      = { logsIn directory with
          names := (logsIn directory).names ++ [Text.LooseText.ofString "fetcher.log"] } :=
  child_of_plain (logsIn directory) (by decide +kernel)

theorem parent_settingsIn : (settingsIn directory).parent = directory := by
  simp [settingsIn_eq, Path.parent]

theorem parent_logIn : (logIn directory).parent = logsIn directory := by
  simp [logIn_eq, Path.parent]

theorem name_settingsIn : (settingsIn directory).name = "settings.json" := by
  simp [settingsIn_eq, Path.name, Text.LooseText.shown_ofString]

theorem fileName_settingsIn : (settingsIn directory).fileName = "settings.json" := by
  simp [settingsIn_eq, Path.fileName, Path.finalName]

theorem fileName_draftIn : (draftIn directory).fileName = "settings.json.tmp" := by
  simp [draftIn, Path.sibling, Path.fileName, Path.finalName]

theorem fileName_logIn : (logIn directory).fileName = "fetcher.log" := by
  simp [logIn_eq, Path.fileName, Path.finalName]

/-- The draft of the settings file in the application's directory. -/
theorem draftPath_settingsIn :
    SettingsStore.draftPath (settingsIn directory) = .ok (draftIn directory) := by
  have final : (settingsIn directory).finalName = "settings.json" := by
    simp [settingsIn_eq, Path.finalName]
  rw [SettingsStore.draftPath, name_settingsIn, final]
  rfl

end AppPaths

open AppPaths

/-- The application's directory, how deep data may be nested in it, and the places of its files. -/
structure Sites where
  directory : Path
  depths : Json.Depths
  settings : Location
  draft : Location
  log : Location

namespace Sites

open FileTree

variable {sites : Sites} {tree other : FileTree}

/-- The directories are there, and the files that are written are or can be. -/
structure Ready (sites : Sites) (tree : FileTree) : Prop where
  top : tree.status sites.directory = .ok .directory
  logs : tree.status (logsIn sites.directory) = .ok .directory
  settings : tree.locate (settingsIn sites.directory) = .ok (.named sites.settings)
  draft : tree.locate (draftIn sites.directory) = .ok (.named sites.draft)
  log : tree.locate (logIn sites.directory) = .ok (.named sites.log)
  spare : Spare (tree.get? sites.draft)
  writable : Writable (tree.get? sites.log)

namespace Ready

/-- Places of different names are different. -/
theorem draft_ne_settings (ready : sites.Ready tree) : sites.draft ≠ sites.settings := by
  refine ne_of_name_ne ?_ (locate_eq_named_iff.mp ready.settings).1
    (locate_eq_named_iff.mp ready.draft).1
  rw [fileName_settingsIn, fileName_draftIn]
  decide +kernel

theorem log_ne_settings (ready : sites.Ready tree) : sites.log ≠ sites.settings := by
  refine ne_of_name_ne ?_ (locate_eq_named_iff.mp ready.settings).1
    (locate_eq_named_iff.mp ready.log).1
  rw [fileName_settingsIn, fileName_logIn]
  decide +kernel

theorem log_ne_draft (ready : sites.Ready tree) : sites.log ≠ sites.draft := by
  refine ne_of_name_ne ?_ (locate_eq_named_iff.mp ready.draft).1
    (locate_eq_named_iff.mp ready.log).1
  rw [fileName_draftIn, fileName_logIn]
  decide +kernel

/-- **As long as the directories stay**, only the draft and the log have to be looked at. -/
theorem of_directories (ready : sites.Ready tree)
    (kept : ∀ place, tree.get? place = some .directory → other.get? place = some .directory)
    (spare : Spare (other.get? sites.draft)) (writable : Writable (other.get? sites.log)) :
    sites.Ready other where
  top := status_of_directories kept ready.top
  logs := status_of_directories kept ready.logs
  settings := locate_of_directories kept ready.settings
  draft := locate_of_directories kept ready.draft
  log := locate_of_directories kept ready.log
  spare := spare
  writable := writable

/-- The log file may be written. -/
theorem put_log (ready : sites.Ready tree) {content : Bytes} {mode : Nat}
    (writable : isWritable mode = true) :
    sites.Ready (tree.put sites.log (.file content mode)) := by
  have free := ready.writable.ne_directory
  refine ready.of_directories (directories_put free _) ?_ ?_
  · rw [get?_put_of_ne ready.log_ne_draft.symm]
    exact ready.spare
  · rw [get?_put_self (not_given_of_ne_directory free)]
    rintro found ⟨⟩
    exact ⟨content, mode, rfl, writable⟩

/-- The draft may be written. -/
theorem put_draft (ready : sites.Ready tree) {content : Bytes} {mode : Nat}
    (readable : isReadable mode = true) (writable : isWritable mode = true) :
    sites.Ready (tree.put sites.draft (.file content mode)) := by
  have free := ready.spare.writable.ne_directory
  refine ready.of_directories (directories_put free _) ?_ ?_
  · rw [get?_put_self (not_given_of_ne_directory free)]
    rintro found ⟨⟩
    exact ⟨content, mode, rfl, readable, writable⟩
  · rw [get?_put_of_ne ready.log_ne_draft]
    exact ready.writable

/-- The settings file may be removed. -/
theorem erase_settings (ready : sites.Ready tree)
    (free : tree.get? sites.settings ≠ some .directory) :
    sites.Ready (tree.erase sites.settings) := by
  have kept : ∀ place, tree.get? place = some .directory →
      (tree.erase sites.settings).get? place = some .directory := by
    intro place there
    have apart : place ≠ sites.settings := fun same => free (same ▸ there)
    rw [get?_erase_of_ne apart, there]
  refine ready.of_directories kept ?_ ?_
  · rw [get?_erase_of_ne ready.draft_ne_settings]
    exact ready.spare
  · rw [get?_erase_of_ne ready.log_ne_settings]
    exact ready.writable

/-- The settings file may be written, and the draft may go. -/
theorem replace_settings (ready : sites.Ready tree)
    (free : tree.get? sites.settings ≠ some .directory) (content : Bytes) (mode : Nat) :
    sites.Ready ((tree.erase sites.draft).put sites.settings (.file content mode)) := by
  have gone := ready.spare.writable.ne_directory
  have kept : ∀ place, tree.get? place = some .directory →
      ((tree.erase sites.draft).put sites.settings (.file content mode)).get? place
        = some .directory := by
    intro place there
    have apart : place ≠ sites.settings := fun same => free (same ▸ there)
    have other : place ≠ sites.draft := fun same => gone (same ▸ there)
    rw [get?_put_of_ne apart, get?_erase_of_ne other, there]
  refine ready.of_directories kept ?_ ?_
  · rw [get?_put_of_ne ready.draft_ne_settings, get?_erase_self (not_given_of_ne_directory gone)]
    exact nofun
  · rw [get?_put_of_ne ready.log_ne_settings, get?_erase_of_ne ready.log_ne_draft]
    exact ready.writable

end Ready

/-! ### What the settings file says -/

/-- The settings that an entry stands for: those that a readable file describes, and the defaults
where there is no file. -/
def StandsFor (depths : Json.Depths) : Option Entry → Settings → Prop
  | none, settings => settings = .defaults
  | some .directory, _ => False
  | some (.file content mode), settings =>
    isReadable mode = true ∧ SettingsStore.ofBytes depths content = .ok settings

theorem StandsFor.ne_directory {depths : Json.Depths} {entry : Option Entry} {settings : Settings}
    (stands : StandsFor depths entry settings) : entry ≠ some .directory := by
  rintro rfl
  exact stands

/-- **A world whose settings file stands for some settings**, and in which nothing keeps it from
being written or removed. -/
structure Holds (sites : Sites) (settings : Settings) (world : World) : Prop where
  ready : sites.Ready world.tree
  stands : StandsFor sites.depths (world.tree.get? sites.settings) settings
  renames : world.faults.rename = none
  removes : world.faults.remove = none
  logged : ∀ place ∈ world.logFile, place = sites.log

namespace Holds

open Files SettingsStore World

variable {settings changed : Settings} {world : World}

/-- Only the files have to be looked at. -/
theorem withTree (holds : sites.Holds settings world) (ready : sites.Ready tree)
    (stands : StandsFor sites.depths (tree.get? sites.settings) changed) :
    sites.Holds changed (world.withTree tree) :=
  { holds with ready, stands }

/-- What is added to the log file leaves everything else. -/
theorem appendAt_log (holds : sites.Holds settings world) (bytes : Bytes) :
    sites.Holds settings (world.withTree (world.tree.appendAt sites.log bytes)) := by
  unfold appendAt
  split
  · rename_i content mode found
    split
    · exact holds
    · obtain ⟨_, _, same, writable⟩ := holds.ready.writable _ found
      cases same
      have writes := (owner_modeAfterWriting world.tree.privileged mode).2.trans writable
      refine holds.withTree (holds.ready.put_log writes) ?_
      rw [get?_put_of_ne holds.ready.log_ne_settings.symm]
      exact holds.stands
  · exact holds

/-- **A line for the log leaves the settings.** -/
theorem log (holds : sites.Holds settings world) (record : LogLine) :
    sites.Holds settings (world.log record) := by
  obtain ⟨_, _, same, rfl | ⟨location, bytes, opened, rfl⟩⟩ := world.exists_of_log record
  · rw [same]
    exact { holds with }
  · have here : location = sites.log := holds.logged location opened
    rw [same]
    exact { here ▸ holds.appendAt_log bytes with }

theorem setUpLog (holds : sites.Holds settings world) (level : Int) (console : Bool) :
    sites.Holds settings (world.setUpLog level console) :=
  { holds with logged := nofun }

/-- The log file is opened. -/
theorem openLog (holds : sites.Holds settings world) (level : Int) :
    ∃ later, world.openLog (logIn sites.directory) level = (.ok (), later)
      ∧ sites.Holds settings later := by
  obtain ⟨content, mode, writable, opened⟩ :=
    openForWriting_writable holds.ready.log holds.ready.writable
  unfold World.openLog
  rw [opened]
  refine ⟨_, rfl, ?_⟩
  have apart := holds.ready.log_ne_settings.symm
  constructor
  · exact holds.ready.put_log writable
  · exact (get?_put_of_ne apart).symm ▸ holds.stands
  · exact holds.renames
  · exact holds.removes
  · rintro place ⟨⟩
    rfl

/-- **Reading tells what the file says.** -/
theorem readFile (holds : sites.Holds settings world) :
    world.attempt (SettingsStore.readFile sites.depths (settingsIn sites.directory))
      = (.ok settings, world) := by
  have stands := holds.stands
  have located := holds.ready.settings
  unfold SettingsStore.readFile
  cases found : world.tree.get? sites.settings with
  | none =>
    have absent : world.tree.status (settingsIn sites.directory) = .error .notFound := by
      simp only [FileTree.status, located, found]
    rw [found] at stands
    have same : settings = .defaults := stands
    rw [attempt_bind_of_ok (attempt_exists?_of_notFound absent), same]
    rfl
  | some entry =>
    have there : world.tree.status (settingsIn sites.directory) = .ok entry := by
      simp only [FileTree.status, located, found]
    rw [found] at stands
    rw [attempt_bind_of_ok (attempt_exists?_of_there there)]
    cases entry with
    | directory => exact stands.elim
    | file content mode =>
      obtain ⟨readable, described⟩ : isReadable mode = true
        ∧ SettingsStore.ofBytes sites.depths content = .ok settings := stands
      have read : world.attempt (Files.read (settingsIn sites.directory))
          = (.ok content, world) := by
        have reply : world.onFile (.read (settingsIn sites.directory)) = (.ok content, world) := by
          simp only [onFile, FileTree.read, there, mayRead_of_readable readable, if_true]
          rfl
        exact reply
      have program := attempt_ofProgram (Files.read (settingsIn sites.directory)).outcome world
      have outcome : world.run (Files.read (settingsIn sites.directory)).outcome
          = (.ok content, world) := read
      rw [outcome] at program
      rw [if_pos rfl, attempt_bind_of_ok program]
      simp only [attempt_ofExcept, described]

/-- What happens to the settings file does not close the log. -/
theorem withoutLogAt_settings (holds : sites.Holds settings world) :
    world.withoutLogAt (settingsIn sites.directory) = world := by
  unfold withoutLogAt
  split
  · rename_i location place opened located
    rw [holds.ready.settings] at located
    cases located
    have here : location = sites.log := holds.logged _ opened
    have apart : (location == sites.settings) = false :=
      beq_eq_false_iff_ne.mpr (here ▸ holds.ready.log_ne_settings)
    rw [apart]
    rfl
  · rfl

/-- The settings file is not there any more. -/
theorem removeIfPresent (holds : sites.Holds settings world) :
    ∃ later, world.attempt (Files.removeIfPresent (settingsIn sites.directory)) = (.ok (), later)
      ∧ sites.Holds .defaults later := by
  have stands := holds.stands
  have located := holds.ready.settings
  have reply : world.attempt (Files.remove (settingsIn sites.directory))
      = world.onFile (.remove (settingsIn sites.directory)) := rfl
  unfold Files.removeIfPresent
  rw [attempt_orElse, reply]
  simp only [onFile, holds.removes, FileTree.remove, located]
  cases found : world.tree.get? sites.settings with
  | none => exact ⟨world, rfl, { holds with stands := by rw [found]; rfl }⟩
  | some entry =>
    rw [found] at stands
    cases entry with
    | directory => exact stands.elim
    | file content mode =>
      have free : world.tree.get? sites.settings ≠ some .directory := by
        rw [found]
        intro same
        cases same
      simp only [holds.withoutLogAt_settings]
      refine ⟨_, rfl, { holds with ready := holds.ready.erase_settings free, stands := ?_ }⟩
      rw [get?_erase_self (not_given_of_ne_directory free)]
      rfl

/-- **Removing makes the file say the defaults.** -/
theorem removeFile (holds : sites.Holds settings world) :
    ∃ later, world.attempt (SettingsStore.removeFile (settingsIn sites.directory))
        = (.ok .defaults, later) ∧ sites.Holds .defaults later := by
  obtain ⟨later, removed, stands⟩ := holds.removeIfPresent
  refine ⟨(later.run (logLine .info SettingsStore.logger "Settings reset to defaults")).2, ?_,
    stands.log _⟩
  unfold SettingsStore.removeFile
  rw [attempt_bind_of_ok removed, attempt_bind_of_ok (attempt_log ..)]
  rfl

/-- The draft is written. -/
theorem writeDraft (holds : sites.Holds settings world) (storable : changed.Storable sites.depths) :
    ∃ mode, isReadable mode = true ∧ isWritable mode = true
      ∧ world.attempt (SettingsStore.writeDraft sites.depths (draftIn sites.directory) changed)
        = (.ok (), world.withTree
            (world.tree.put sites.draft (.file (savedBytes changed) mode))) := by
  obtain ⟨mode, readable, writable, opened⟩ :=
    openForWriting_spare holds.ready.draft holds.ready.spare
  have accepts : world.tree.Accepts (draftIn sites.directory) sites.draft :=
    ⟨holds.ready.draft, holds.ready.spare.writable.ne_directory⟩
  obtain ⟨reads, writes⟩ := owner_modeWith world.tree.privileged (savedBytes changed) mode
  refine ⟨modeWith world.tree.privileged (savedBytes changed) mode, reads.trans readable,
    writes.trans writable, ?_⟩
  have overwritten := attempt_overwrite_of_opened opened
  have appended := attempt_append_put accepts [] (savedBytes changed) mode
  unfold SettingsStore.writeDraft
  rw [attempt_bind_of_ok overwritten, record_eq storable, attempt_bind_of_ok (attempt_ofExcept ..)]
  simp only [isComplete_record storable, Bool.not_true, Bool.false_eq_true, if_false]
  exact attempt_bind_of_ok appended

/-- A draft leaves what the settings file says. -/
theorem drafted (holds : sites.Holds settings world) {content : Bytes} {mode : Nat}
    (readable : isReadable mode = true) (writable : isWritable mode = true) :
    sites.Holds settings (world.withTree (world.tree.put sites.draft (.file content mode))) := by
  refine holds.withTree (holds.ready.put_draft readable writable) ?_
  rw [get?_put_of_ne holds.ready.draft_ne_settings.symm]
  exact holds.stands

/-- The draft takes the settings file's place. -/
theorem rename_draft (holds : sites.Holds settings world) {content : Bytes} {mode : Nat}
    (readable : isReadable mode = true) (writable : isWritable mode = true) :
    (world.withTree (world.tree.put sites.draft (.file content mode))).attempt
        (rename (draftIn sites.directory) (settingsIn sites.directory))
      = (.ok (), world.withTree
          ((world.tree.erase sites.draft).put sites.settings (.file content mode))) := by
  have gone : world.tree.get? sites.draft ≠ some .directory :=
    holds.ready.spare.writable.ne_directory
  have moved : (world.tree.put sites.draft (.file content mode)).rename
        (draftIn sites.directory) (settingsIn sites.directory)
      = .ok ((world.tree.erase sites.draft).put sites.settings (.file content mode)) :=
    rename_put holds.ready.draft gone holds.ready.settings holds.stands.ne_directory
      holds.ready.draft_ne_settings
  have drafted : sites.Holds settings
      (world.withTree (world.tree.put sites.draft (.file content mode))) :=
    holds.drafted readable writable
  have reply : (world.withTree (world.tree.put sites.draft (.file content mode))).onFile
        (.rename (draftIn sites.directory) (settingsIn sites.directory))
      = (.ok (), world.withTree
          ((world.tree.erase sites.draft).put sites.settings (.file content mode))) := by
    simp only [onFile, withTree_faults, withTree_tree, holds.renames, moved,
      drafted.withoutLogAt_settings]
    rfl
  exact reply

/-- **Replacing makes the file say the new settings.** -/
theorem replaceFile (holds : sites.Holds settings world)
    (storable : changed.Storable sites.depths) :
    ∃ later, world.attempt
        (SettingsStore.replaceFile sites.depths (settingsIn sites.directory) changed)
        = (.ok (), later) ∧ sites.Holds changed later := by
  obtain ⟨mode, readable, writable, written⟩ := holds.writeDraft storable
  have free : world.tree.get? sites.settings ≠ some .directory := holds.stands.ne_directory
  let tree := (world.tree.erase sites.draft).put sites.settings (.file (savedBytes changed) mode)
  have stands : StandsFor sites.depths (tree.get? sites.settings) changed := by
    rw [get?_put_self (not_given_of_ne_directory free)]
    exact ⟨readable, ofBytes_saved storable⟩
  have replaced : sites.Holds changed (world.withTree tree) :=
    holds.withTree (holds.ready.replace_settings free _ _) stands
  refine ⟨((world.withTree tree).run (logLine .info SettingsStore.logger
    ("Saved settings to " ++ (settingsIn sites.directory).text))).2, ?_, replaced.log _⟩
  have there : world.attempt (ensureDirectory (settingsIn sites.directory).parent)
      = (.ok (), world) := by
    rw [parent_settingsIn]
    exact attempt_ensureDirectory_of_there holds.ready.top
  have saved : world.attempt ((do
        SettingsStore.writeDraft sites.depths (draftIn sites.directory) changed
        rename (draftIn sites.directory) (settingsIn sites.directory) : Action Unit).orElse
          fun failure => do
            if failure.isSystem then Files.removeIfPresent (draftIn sites.directory)
            throw failure) = (.ok (), world.withTree tree) := by
    rw [attempt_orElse, attempt_bind_of_ok written, holds.rename_draft readable writable]
  unfold SettingsStore.replaceFile
  rw [attempt_bind_of_ok there, draftPath_settingsIn, attempt_bind_of_ok (attempt_ofExcept ..),
    attempt_bind_of_ok saved, attempt_log]

end Holds

end Sites

end AssetFetch
