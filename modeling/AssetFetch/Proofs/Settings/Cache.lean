/-
**Settings in memory and settings in the file.**

A store remembers the settings that it has loaded, saved or gone back to. Whatever is asked of it,
and wherever that fails, what it remembers is what its file says.

* `Settings.IsSimple`: settings that a reader can give, without floating point numbers, and
  `storable_of_saved`: such settings come back once they have been written completely;
* `SettingsStore.Agrees`: what a store remembers is what its file says;
* `Agrees.load`, `Agrees.save`, `Agrees.reset`, `Agrees.update`: every call keeps that, and one that
  fails leaves the file as it is;
* `session`: calls one after the other, each with failures of its own, and
  `cache_agrees_with_file`: **after every call of a session the store agrees with its file.**
-/

import AssetFetch.Proofs.Json.Reading
import AssetFetch.Proofs.Settings.Owned
import Mathlib.Algebra.Group.Int.Defs

namespace AssetFetch

open AssetFetch.Text FileTree World

/-! ### Settings that come back -/

namespace Value

/-- What a reader can give, without floating point numbers. -/
def IsSimple (value : Value) : Prop :=
  value.IsSound ∧ value.IsFloatless

end Value

namespace Settings

variable {depths : Json.Depths} {settings : Settings}

/-- All values are simple. -/
def IsSimple (settings : Settings) : Prop :=
  ∀ field, (settings.value field).IsSimple

theorem isSimple_defaults : defaults.IsSimple := by
  intro field
  cases field with
  | requestTimeout | downloadTimeout => exact ⟨trivial, trivial⟩
  | _ => exact ⟨LooseText.isReduced_ofString _, trivial⟩

theorem IsSimple.overlay (simple : settings.IsSimple) {members : List (LooseText × Value)}
    (each : ∀ member ∈ members, member.2.IsSimple) : (settings.overlay members).IsSimple := by
  intro field
  simp only [Settings.overlay]
  cases found : Value.member? field.name members with
  | none => exact simple field
  | some value => exact each _ (Value.mem_of_member? found)

theorem areSound_fields (simple : settings.IsSimple) {fields : List Field}
    (distinct : fields.Nodup) :
    Value.AreSoundMembers
      (fields.map fun field => (LooseText.ofString field.name, settings.value field)) := by
  induction fields with
  | nil => trivial
  | cons first rest ih =>
    obtain ⟨new, others⟩ := List.nodup_cons.mp distinct
    exact ⟨LooseText.isReduced_ofString _, name_notMem_fields _ new, (simple first).1, ih others⟩

theorem areFloatless_fields (simple : settings.IsSimple) (fields : List Field) :
    Value.AreFloatlessMembers
      (fields.map fun field => (LooseText.ofString field.name, settings.value field)) := by
  induction fields with
  | nil => trivial
  | cons first rest ih => exact ⟨(simple first).2, ih⟩

/-- **Simple settings that have been written completely come back.** -/
theorem IsSimple.storable_of_saved (simple : settings.IsSimple)
    (shallow : SettingsStore.record depths settings = .ok settings.toValue)
    (complete : Json.isComplete (Json.writes 0 "" settings.toValue) = true) :
    settings.Storable depths where
  stable field := by
    have stable : settings.toValue.IsStable :=
      Json.stable_of_complete 0 "" settings.toValue (areSound_fields simple (by decide))
        (areFloatless_fields simple _) complete
    exact Value.stable_of_mem stable _ (List.mem_map_of_mem (Field.mem_all field))
  shallow field := by
    have every : SettingsStore.isTooDeep depths settings = false := by
      cases deep : SettingsStore.isTooDeep depths settings with
      | false => rfl
      | true =>
        rw [SettingsStore.record, deep] at shallow
        cases shallow
    simp only [SettingsStore.isTooDeep, List.any_eq_false, decide_eq_true_eq, Nat.not_lt] at every
    exact every field (Field.mem_all field)

end Settings

namespace SettingsStore

variable {depths : Json.Depths} {path : Path} {settings : Settings} {world later : World}
  {failure : Failure} {store : SettingsStore}

/-- The file that a path names holds no floating point number, if it holds a value at all. -/
def HoldsNoFloats (depths : Json.Depths) (path : Path) (tree : FileTree) : Prop :=
  ∀ file ∈ tree.fileAt path, ∀ text value, decode file.1 = .ok text →
    Json.read depths.read text = .ok value → value.IsFloatless

/-- What such a file says is simple. -/
theorem isSimple_of_said {tree : FileTree} (floatless : HoldsNoFloats depths path tree)
    (said : said depths tree.privileged path (tree.status path) = .ok settings) :
    settings.IsSimple := by
  have simple : ∀ {content : Bytes}, (∀ text value, decode content = .ok text →
      Json.read depths.read text = .ok value → value.IsFloatless) →
      ofBytes depths content = .ok settings → settings.IsSimple := by
    intro content floatless described
    unfold ofBytes at described
    split at described
    · cases described
    · rename_i text decoded
      split at described
      · cases described
        exact Settings.isSimple_defaults
      · cases described
      · rename_i members read
        cases described
        have sound : (Value.record members).IsSound := Json.sound_readWithin read
        have without : (Value.record members).IsFloatless := floatless text _ decoded read
        exact Settings.isSimple_defaults.overlay fun member inside =>
          ⟨Value.sound_of_mem sound member inside, Value.floatless_of_mem without member inside⟩
      · cases described
        exact Settings.isSimple_defaults
  unfold HoldsNoFloats fileAt at floatless
  unfold SettingsStore.said at said
  split at said
  · cases said
    exact Settings.isSimple_defaults
  · rename_i content mode there
    split at said
    · rw [there] at floatless
      exact simple (floatless _ rfl) said
    · cases said
      exact Settings.isSimple_defaults
  · split at said
    · cases said
      exact Settings.isSimple_defaults
    · cases said

/-! ### A store that agrees with its file -/

/-- **What a store remembers is what its file says**, which is simple; and the file is its own. -/
structure Agrees (depths : Json.Depths) (path : Path) (store : SettingsStore) (world : World) :
    Prop where
  deep : store.depths = depths
  here : store.path = path
  owned : Owned path world
  cached : ∀ settings ∈ store.known,
    said depths world.tree.privileged path (world.tree.status path) = .ok settings
  simple : ∀ settings,
    said depths world.tree.privileged path (world.tree.status path) = .ok settings →
    settings.IsSimple

/-- A call leaves a store that agrees with its file, and a file without change if it fails. -/
structure Keeps (depths : Json.Depths) (path : Path) (world : World) {α : Type}
    (ran : (Except Failure α × SettingsStore) × World) : Prop where
  agrees : Agrees depths path ran.1.2 ran.2
  unchanged : ∀ failure, ran.1.1 = .error failure →
    ran.2.tree.fileAt path = world.tree.fileAt path

namespace Agrees

variable (agrees : Agrees depths path store world)

include agrees

theorem of_same (owned : Owned path later) (same : SaysSame path world.tree later.tree)
    (user : world.SameUser later) : Agrees depths path store later where
  deep := agrees.deep
  here := agrees.here
  owned := owned
  cached settings known := by
    rw [user, same.said]
    exact agrees.cached settings known
  simple settings said := by
    rw [user, same.said] at said
    exact agrees.simple settings said

theorem of_said (owned : Owned path later)
    (said : said depths later.tree.privileged path (later.tree.status path) = .ok settings)
    (simple : settings.IsSimple) :
    Agrees depths path { store with known := some settings } later where
  deep := agrees.deep
  here := agrees.here
  owned := owned
  cached := by
    rintro _ ⟨⟩
    exact said
  simple other also := Except.ok.inj (said.symm.trans also) ▸ simple

/-- **A store remembers what an action gives**: it has to be what the file says then, and an action
that fails has to leave the file. -/
theorem remembering {α : Type} {action : Action α} {give : α → Settings}
    (ok : ∀ value later, world.attempt action = (.ok value, later) → Owned path later
      ∧ said depths later.tree.privileged path (later.tree.status path) = .ok (give value)
      ∧ (give value).IsSimple)
    (error : ∀ failure later, world.attempt action = (.error failure, later) → Owned path later
      ∧ SaysSame path world.tree later.tree) :
    Keeps depths path world (world.run (store.remembering action give)) := by
  rw [run_remembering_eq]
  cases attempted : world.attempt action with
  | mk result later =>
    cases result with
    | ok value =>
      obtain ⟨owned, said, simple⟩ := ok value later attempted
      exact ⟨agrees.of_said owned said simple, nofun⟩
    | error failure =>
      obtain ⟨owned, same⟩ := error failure later attempted
      exact ⟨agrees.of_same owned same (sameUser_of_attempt attempted), fun _ _ => same.fileAt⟩

/-- Loading. -/
theorem load : Keeps depths path world (world.run store.load) := by
  refine agrees.remembering (fun settings later read => ?_) fun failure later read => ?_
  · rw [agrees.deep, agrees.here, attempt_readFile] at read
    obtain ⟨said, rfl⟩ := Prod.mk.inj read
    exact ⟨agrees.owned, said, agrees.simple settings said⟩
  · rw [agrees.deep, agrees.here, attempt_readFile] at read
    obtain ⟨_, rfl⟩ := Prod.mk.inj read
    exact ⟨agrees.owned, .refl path _⟩

/-- Saving simple settings. -/
theorem save (simple : settings.IsSimple) :
    Keeps depths path world (world.run (store.save settings)) := by
  refine agrees.remembering (fun _ later saved => ?_) fun failure later failed => ?_
  · rw [agrees.deep, agrees.here] at saved
    obtain ⟨mode, readable, there⟩ :=
      status_of_replaced agrees.owned.logged agrees.owned.legible saved
    obtain ⟨_, _, _, _, _, _, _, shallow, complete, _⟩ := exists_moves agrees.owned.logged saved
    have storable := simple.storable_of_saved shallow complete
    refine ⟨agrees.owned.of_replaced saved, ?_, simple⟩
    rw [there, said, ← mayRead, if_pos readable]
    exact ofBytes_saved storable
  · rw [agrees.deep, agrees.here] at failed
    exact ⟨agrees.owned.of_failed failed,
      (replaceFile_of_error agrees.owned.steady agrees.owned.logged failed).same⟩

/-- Going back to the defaults, unless it is pretended that the file is missing. -/
theorem reset (honest : ∀ fault ∈ world.faults.remove, fault.isNotFound = false) :
    Keeps depths path world (world.run store.reset) := by
  refine agrees.remembering (fun given later removed => ?_) fun failure later failed => ?_
  · rw [agrees.here, attempt_removeFile] at removed
    -- the line about it is written when the file is gone
    have rest : ∀ {half : World}, Owned path half →
        said depths half.tree.privileged path (half.tree.status path) = .ok .defaults →
        (.ok Settings.defaults,
          (half.run (logLine .info logger "Settings reset to defaults")).2)
            = ((.ok given, later) : Except Failure Settings × World) →
        Owned path later
          ∧ said depths later.tree.privileged path (later.tree.status path) = .ok given
          ∧ given.IsSimple := by
      intro half owned said same
      cases same
      have user : (half.run (logLine .info logger "Settings reset to defaults")).2.tree.privileged
          = half.tree.privileged := sameUser_run ..
      rw [user, run_logLine]
      exact ⟨owned.log _, (leaves_log owned.logged _).same.said.trans said,
        Settings.isSimple_defaults⟩
    rcases attempt_removeIfPresent path world with
      ⟨gone, missing | ⟨fault, faulty, missing⟩⟩ | ⟨place, _, _, located, found, _, gone⟩
        | ⟨_, _, _, refused⟩
    · rw [gone] at removed
      exact rest agrees.owned (by rw [missing]; rfl) removed
    · rw [honest fault faulty] at missing
      cases missing
    · rw [gone, withoutLogAt_of_named agrees.owned.logged] at removed
      refine rest (agrees.owned.of_removed located found) ?_ removed
      rw [withTree_tree, status_erase located found]
      rfl
    · rw [refused] at removed
      cases removed
  · rw [agrees.here] at failed
    obtain rfl := removeFile_of_error failed
    exact ⟨agrees.owned, .refl path _⟩

/-- What is known of the settings is what the file says. -/
theorem run_current :
    ∃ found, world.run store.current
        = ((said depths world.tree.privileged path (world.tree.status path), found), world)
      ∧ Agrees depths path found world := by
  unfold current
  cases known : store.known with
  | some settings =>
    refine ⟨store, ?_, agrees⟩
    rw [agrees.cached settings known]
    rfl
  | none =>
    have loaded := agrees.load.agrees
    unfold SettingsStore.load at loaded ⊢
    rw [run_remembering_eq, agrees.deep, agrees.here, attempt_readFile] at loaded ⊢
    cases said : said depths world.tree.privileged path (world.tree.status path) with
    | ok settings =>
      rw [said] at loaded
      exact ⟨_, rfl, loaded⟩
    | error failure =>
      rw [said] at loaded
      exact ⟨_, rfl, loaded⟩

/-- Changing fields. -/
theorem update {changes : List (LooseText × Value)}
    (each : ∀ change ∈ changes, change.2.IsSimple) :
    Keeps depths path world (world.run (store.update changes)) := by
  unfold SettingsStore.update
  cases nameFault? changes with
  | some failure => exact ⟨agrees, fun _ _ => rfl⟩
  | none =>
    obtain ⟨found, current, also⟩ := agrees.run_current
    simp only [run_bind, current]
    cases said : said depths world.tree.privileged path (world.tree.status path) with
    | error failure => exact ⟨also, fun _ _ => rfl⟩
    | ok settings =>
      have saved := also.save ((agrees.simple settings said).overlay each)
      simp only [run_bind]
      cases ran : world.run (found.save (settings.overlay changes)) with
      | mk result later =>
        obtain ⟨outcome, kept⟩ := result
        rw [ran] at saved
        cases outcome with
        | ok _ => exact ⟨saved.agrees, nofun⟩
        | error failure => exact ⟨saved.agrees, fun _ _ => saved.unchanged failure rfl⟩

end Agrees

end SettingsStore

/-! ### Sessions -/

/-- The world in which files fail in another way. -/
def World.withFaults (world : World) (faults : FileFaults) : World :=
  { world with faults }

/-- What can be asked of a store. -/
inductive StoreCall where
  | load
  | save (settings : Settings)
  | update (changes : List (LooseText × Value))
  | reset

/-- All values of a call are what some text says, without floating point numbers. -/
def StoreCall.IsPlain : StoreCall → Prop
  | .save settings => ∀ field, (settings.value field).IsJson ∧ (settings.value field).IsFloatless
  | .update changes => ∀ change ∈ changes, change.2.IsJson ∧ change.2.IsFloatless
  | _ => True

/-- A call that has been made: its outcome, the store after it, and the worlds around it. -/
structure CallRecord where
  outcome : Except Failure Unit
  store : SettingsStore
  before : World
  after : World

namespace SettingsStore

variable {depths : Json.Depths} {path : Path} {world : World} {store : SettingsStore}

/-- The outcome without the settings that it gives. -/
def forgetting {α : Type} (program : Program (Except Failure α × SettingsStore)) :
    Program (Except Failure Unit × SettingsStore) := do
  let (outcome, store) ← program
  return (outcome.map fun _ => (), store)

/-- Does what is asked. -/
def call (store : SettingsStore) : StoreCall → Program (Except Failure Unit × SettingsStore)
  | .load => forgetting store.load
  | .save settings => store.save settings
  | .update changes => forgetting (store.update changes)
  | .reset => forgetting store.reset

/-- The calls of a session, one after the other, each where files fail in a way of its own. -/
def session : List (FileFaults × StoreCall) → SettingsStore → World → List CallRecord
  | [], _, _ => []
  | (faults, asked) :: rest, store, world =>
    let before := world.withFaults faults
    let ran := before.run (store.call asked)
    ⟨ran.1.1, ran.1.2, before, ran.2⟩ :: session rest ran.1.2 ran.2

theorem Keeps.forgetting {α : Type} {program : Program (Except Failure α × SettingsStore)}
    (keeps : Keeps depths path world (world.run program)) :
    Keeps depths path world (world.run (forgetting program)) := by
  have ran : world.run (SettingsStore.forgetting program)
      = (((world.run program).1.1.map fun _ => (), (world.run program).1.2),
        (world.run program).2) := by
    unfold SettingsStore.forgetting
    rw [run_bind]
    rfl
  rw [ran]
  refine ⟨keeps.agrees, fun failure failed => ?_⟩
  cases outcome : (world.run program).1.1 with
  | ok value =>
    rw [outcome] at failed
    cases failed
  | error cause => exact keeps.unchanged cause outcome

/-- **Whatever is asked of a store, it agrees with its file.** -/
theorem Agrees.call (agrees : Agrees depths path store world) {asked : StoreCall}
    (plain : asked.IsPlain)
    (honest : ∀ fault ∈ world.faults.remove, fault.isNotFound = false) :
    Keeps depths path world (world.run (store.call asked)) := by
  have simple : ∀ {value : Value}, value.IsJson ∧ value.IsFloatless → value.IsSimple :=
    fun both => ⟨both.1.isSound, both.2⟩
  cases asked with
  | load => exact agrees.load.forgetting
  | save settings => exact agrees.save fun field => simple (plain field)
  | update changes =>
    exact (agrees.update fun change inside => simple (plain change inside)).forgetting
  | reset => exact (agrees.reset honest).forgetting

/-- What a new store loads where another agrees with the file. -/
theorem Agrees.run_load_new (agrees : Agrees depths path store world) {settings : Settings}
    (known : settings ∈ store.known) :
    (world.run (ofPath depths path).load).1.1 = .ok settings := by
  rw [SettingsStore.load, run_remembering_eq, ofPath, attempt_readFile,
    agrees.cached settings known]

/-- How files fail has nothing to do with what they say. -/
theorem Agrees.withFaults (agrees : Agrees depths path store world) (faults : FileFaults) :
    Agrees depths path store (world.withFaults faults) :=
  ⟨agrees.deep, agrees.here, ⟨agrees.owned.steady, agrees.owned.legible, agrees.owned.logged⟩,
    agrees.cached, agrees.simple⟩

/-- **A whole session**, by induction on its calls: every call finds a store that agrees with its
file, and leaves one. -/
theorem Agrees.session {calls : List (FileFaults × StoreCall)}
    (plain : ∀ call ∈ calls, call.2.IsPlain)
    (honest : ∀ call ∈ calls, ∀ fault ∈ call.1.remove, fault.isNotFound = false)
    (agrees : Agrees depths path store world) :
    ∀ record ∈ session calls store world, Agrees depths path record.store record.after
      ∧ ∀ failure, record.outcome = .error failure →
        record.after.tree.fileAt path = record.before.tree.fileAt path := by
  induction calls generalizing store world with
  | nil => exact fun _ inside => absurd inside List.not_mem_nil
  | cons first rest ih =>
    obtain ⟨faults, asked⟩ := first
    obtain ⟨plainHere, plainLater⟩ := List.forall_mem_cons.mp plain
    obtain ⟨honestHere, honestLater⟩ := List.forall_mem_cons.mp honest
    have kept := (agrees.withFaults faults).call plainHere honestHere
    rw [SettingsStore.session]
    generalize (world.withFaults faults).run (store.call asked) = ran at kept ⊢
    exact List.forall_mem_cons.mpr
      ⟨⟨kept.agrees, kept.unchanged⟩, ih plainLater honestLater kept.agrees⟩

/-- **After every call of a session, what the store remembers is what a new store loads**, and a
call that failed has left the file byte for byte: whatever the file held at first, apart from
floating point numbers, whatever is asked in which order, and however moving and removing files
fails, unless it is pretended that the file is missing. -/
theorem cache_agrees_with_file {calls : List (FileFaults × StoreCall)} (owned : Owned path world)
    (floatless : HoldsNoFloats depths path world.tree)
    (plain : ∀ call ∈ calls, call.2.IsPlain)
    (honest : ∀ call ∈ calls, ∀ fault ∈ call.1.remove, fault.isNotFound = false) :
    ∀ record ∈ session calls (ofPath depths path) world,
      (∀ settings ∈ record.store.known,
        (record.after.run (ofPath depths path).load).1.1 = .ok settings)
      ∧ ∀ failure, record.outcome = .error failure →
        record.after.tree.fileAt path = record.before.tree.fileAt path := by
  have start : Agrees depths path (ofPath depths path) world :=
    ⟨rfl, rfl, owned, nofun, fun _ => isSimple_of_said floatless⟩
  intro record inside
  obtain ⟨agrees, unchanged⟩ := start.session plain honest record inside
  exact ⟨fun settings known => agrees.run_load_new known, unchanged⟩

/-- A settings file in a directory that has still to be made. -/
def exampleFile : Path := ⟨0, ["config", "settings.json"]⟩

/-- Settings with a list of a large number and a record in a field. -/
def exampleSettings : Settings :=
  Settings.defaults.set .releaseTag (.list [.int (10 ^ 40), .record [("half", .text "a\n")]])

/-- Loading, saving where no file can be moved, saving, going back where no file can be removed,
changing a field and going back. -/
def exampleCalls : List (FileFaults × StoreCall) :=
  let full := Failure.system (.numbered 28 "No space left on device" [])
  let denied := Failure.system (.numbered 13 "Permission denied" [])
  [(.none, .load), ({ FileFaults.none with rename := some full }, .save exampleSettings),
    (.none, .save exampleSettings), ({ FileFaults.none with remove := some denied }, .reset),
    (.none, .update [("asset_name", .text "tool")]), (.none, .reset)]

theorem owned_exampleFile : Owned exampleFile .empty := by
  have drafted : ∀ draft, draftPath exampleFile = .ok draft →
      draft = ⟨0, ["config", "settings.json.tmp"]⟩ := by
    rintro _ ⟨⟩
    decide +kernel
  refine .of_downward rooted_empty ?_ ?_ ?_ nofun
  · decide +kernel
  · intro draft named
    rw [drafted draft named]
    decide +kernel
  · intro draft named place located
    rw [drafted draft named] at located
    have nowhere : World.empty.tree.locate ⟨0, ["config", "settings.json.tmp"]⟩
        = .error .notFound := by
      decide +kernel
    rw [nowhere] at located
    cases located

theorem isPlain_exampleCalls : ∀ call ∈ exampleCalls, call.2.IsPlain := by
  have plain : ∀ {value : Value}, value.IsStable → value.IsFloatless →
      value.IsJson ∧ value.IsFloatless := fun stable floatless => ⟨stable.isJson, floatless⟩
  have saved : (StoreCall.save exampleSettings).IsPlain := by
    intro field
    have others := (Settings.kept_defaults field).stable
    cases field with
    | releaseTag =>
      have short : digitCount (10 ^ 40) ≤ digitLimit := by decide +kernel
      refine plain ⟨short, ⟨LooseText.isReduced_ofString _, List.not_mem_nil, ?_, trivial⟩,
        trivial⟩ ⟨trivial, ⟨trivial, trivial⟩, trivial⟩
      exact LooseText.isReduced_ofString _
    | _ => exact plain others trivial
  have changed : (StoreCall.update [("asset_name", .text "tool")]).IsPlain :=
    List.forall_mem_singleton.mpr (plain (LooseText.isReduced_ofString _) trivial)
  simp only [exampleCalls, List.forall_mem_cons]
  exact ⟨trivial, saved, saved, trivial, changed, trivial, fun _ inside =>
    absurd inside List.not_mem_nil⟩

/-- A session with two calls that fail. -/
theorem cache_agrees_with_file_crowded :
    (session exampleCalls (ofPath .usual exampleFile) .empty).map
        (fun record => record.outcome.toOption.isSome) = [true, false, true, false, true, true]
      ∧ ∀ record ∈ session exampleCalls (ofPath .usual exampleFile) .empty,
        (∀ settings ∈ record.store.known,
          (record.after.run (ofPath .usual exampleFile).load).1.1 = .ok settings)
        ∧ ∀ failure, record.outcome = .error failure →
          record.after.tree.fileAt exampleFile = record.before.tree.fileAt exampleFile := by
  refine ⟨by decide +kernel, ?_⟩
  refine cache_agrees_with_file owned_exampleFile ?_ isPlain_exampleCalls ?_
  · have nowhere : World.empty.tree.fileAt exampleFile = none := by decide +kernel
    intro file there
    rw [nowhere] at there
    cases there
  · simp only [exampleCalls, List.forall_mem_cons]
    exact ⟨nofun, nofun, nofun, by rintro _ ⟨⟩; decide, nofun, nofun, fun _ inside =>
      absurd inside List.not_mem_nil⟩

end SettingsStore

end AssetFetch
