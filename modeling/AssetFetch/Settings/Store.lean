/-
**The settings file.**

Settings are kept in a file and, once known, in memory. A file that cannot be used counts as the
defaults. Saving writes a second file and moves it over the first, so that an interrupted save
leaves the old one.

* `SettingsStore`: the file's path and the settings known so far;
* `load`, `save`, `reset`, `update`: each answers an outcome and the store after it.
-/

import AssetFetch.Json.Printer
import AssetFetch.Program
import AssetFetch.Settings

namespace AssetFetch

open AssetFetch.Text

/-- A settings file, how deep data may be nested in it, and what is known of it. -/
structure SettingsStore where
  depths : Json.Depths
  path : Path
  known : Option Settings
  deriving Inhabited

namespace SettingsStore

/-- The logger of settings. -/
def logger : String := "move_release_fetcher.settings"

/-- The store of a file that has not been looked at. -/
def ofPath (depths : Json.Depths) (path : Path) : SettingsStore := ⟨depths, path, none⟩

/-- The settings that the bytes of a file describe. Bytes that are no text, numbers that are too
long and nesting that is too deep are failures; anything else that describes no settings counts as
the defaults. -/
def ofBytes (depths : Json.Depths) (bytes : Bytes) : Except Failure Settings :=
  match decode bytes with
  | .error fault => .error (.undecodable fault)
  | .ok text =>
    match Json.read depths.read text with
    | .error (.malformed _) => .ok .defaults
    | .error fault => .error (.ofJson fault)
    | .ok (.record members) => .ok (Settings.defaults.overlay members)
    | .ok _ => .ok .defaults

/-- Reads the settings of a file. -/
def readFile (depths : Json.Depths) (path : Path) : Action Settings := do
  if ← Files.exists? path then
    match ← Action.ofProgram (Files.read path).outcome with
    | .ok bytes => .ofExcept (ofBytes depths bytes)
    | .error failure => if failure.isSystem then return .defaults else throw failure
  else return .defaults

/-- The file that is written before it takes the settings file's place. -/
def draftPath (path : Path) : Except Failure Path :=
  if path.name == "" then .error (.noFileName path)
  else .ok (path.sibling (path.finalName ++ (".tmp" : LooseText)))

/-- Whether some field is nested too deep to be saved. -/
def isTooDeep (depths : Json.Depths) (settings : Settings) : Bool :=
  Field.all.any fun field => depths.written < (settings.value field).depth

/-- The settings as a record, unless some field is nested too deep. -/
def record (depths : Json.Depths) (settings : Settings) : Except Failure Value :=
  if isTooDeep depths settings then .error (.tooDeep none) else .ok settings.toValue

/-- Writes settings into a file. What can be written is written, even if the rest cannot be; where
the nesting is too deep nothing is. -/
def writeDraft (depths : Json.Depths) (draft : Path) (settings : Settings) : Action Unit := do
  Files.overwrite draft
  let pieces := Json.writes 0 "" (← .ofExcept (record depths settings))
  Files.append draft (encode (Json.writtenText pieces))
  if !Json.isComplete pieces then throw .numberTooLong

/-- Writes settings beside the file and moves them over it. -/
def replaceFile (depths : Json.Depths) (path : Path) (settings : Settings) : Action Unit := do
  Files.ensureDirectory path.parent
  let draft ← .ofExcept (draftPath path)
  (do
    writeDraft depths draft settings
    Files.rename draft path : Action Unit).orElse fun failure => do
    if failure.isSystem then Files.removeIfPresent draft
    throw failure
  log .info logger ("Saved settings to " ++ path.text)

/-- The outcome of an action, and the store with the settings it gives if there are any. -/
def remembering {α : Type} (store : SettingsStore) (action : Action α) (settings : α → Settings) :
    Program (Except Failure α × SettingsStore) := do
  match ← action.outcome with
  | .ok value => return (.ok value, { store with known := some (settings value) })
  | .error failure => return (.error failure, store)

/-- Loads the settings. -/
def load (store : SettingsStore) : Program (Except Failure Settings × SettingsStore) :=
  store.remembering (readFile store.depths store.path) id

/-- Saves settings. -/
def save (store : SettingsStore) (settings : Settings) :
    Program (Except Failure Unit × SettingsStore) :=
  store.remembering (replaceFile store.depths store.path settings) fun _ => settings

/-- Removes the file and goes back to the defaults. -/
def removeFile (path : Path) : Action Settings := do
  Files.removeIfPresent path
  log .info logger "Settings reset to defaults"
  return .defaults

/-- Goes back to the defaults. -/
def reset (store : SettingsStore) : Program (Except Failure Settings × SettingsStore) :=
  store.remembering (removeFile store.path) id

/-- The names among changes that are no fields, in order. -/
def unknownNames (changes : List (LooseText × Value)) : List String :=
  ((changes.map fun change => change.1.shown).filter fun name =>
    (Field.ofName? name).isNone).mergeSort

/-- The name that stands for the store itself, under which no change can be asked for. -/
def reservedName : String := "self"

/-- What is wrong with the names of changes, if anything is. -/
def nameFault? (changes : List (LooseText × Value)) : Option Failure :=
  if (Value.member? reservedName changes).isSome then some (.reservedSetting reservedName)
  else
    match unknownNames changes with
    | [] => none
    | names => some (.unknownSettings names)

/-- The settings known so far, or else loaded. -/
def current (store : SettingsStore) : Program (Except Failure Settings × SettingsStore) :=
  match store.known with
  | some settings => return (.ok settings, store)
  | none => store.load

/-- Changes fields and saves. -/
def update (store : SettingsStore) (changes : List (LooseText × Value)) :
    Program (Except Failure Settings × SettingsStore) := do
  match nameFault? changes with
  | some failure => return (.error failure, store)
  | none =>
    match ← store.current with
    | (.error failure, store) => return (.error failure, store)
    | (.ok settings, store) =>
      let changed := settings.overlay changes
      match ← store.save changed with
      | (.error failure, store) => return (.error failure, store)
      | (.ok (), store) => return (.ok changed, store)

end SettingsStore

end AssetFetch
