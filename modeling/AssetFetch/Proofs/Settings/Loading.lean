/-
**What is loaded from a settings file.**

A settings file is meant to hold an object. Its members replace the defaults of the fields of their
names, the last one of a name; and a file with anything else in it counts as the defaults.

* `Json.SaysMembers`: the members of an object as a text has them, and `says_record_iff`: the record
  that such a text says;
* `SettingsStore.Describes`: a file from which an object can be read; `SettingsStore.Loadable`:
  bytes that some settings can be loaded from;
* `SettingsStore.Documented`: what is promised of loading, and `load_documented_iff`: **the promise
  is kept exactly if the name of the file is not too long and the file, if it can be read, holds
  encoded text that is neither nested too deep nor has numbers that are too long**.
-/

import AssetFetch.Proofs.Json.Parsing
import AssetFetch.Proofs.Settings.File
import AssetFetch.Proofs.Settings.Replacing
import AssetFetch.Proofs.Text.Decoding

namespace AssetFetch

open AssetFetch.Text

/-! ### Objects -/

namespace Json

variable {characters : List Char} {written : List (LooseText × Value)}

/-- A text has an object with these members, as they are written, those of one name included. -/
def SaysMembers (characters : List Char) (written : List (LooseText × Value)) : Prop :=
  ∃ before inside after, Blank before ∧ Blank after ∧ Spells inside (.members written)
    ∧ characters = before ++ '\x7b' :: (inside ++ '\x7d' :: after)

/-- A number is no record. -/
theorem value_ne_record {limit : Option Nat} {parts : NumberParts}
    (members : List (LooseText × Value)) : parts.value limit ≠ .ok (.record members) := by
  intro same
  unfold NumberParts.value at same
  split at same
  · split at same <;> cases same
  · cases same

/-- **An object says the record of its members.** -/
theorem says_record_iff {members : List (LooseText × Value)} :
    Says characters (.record members)
      ↔ ∃ written, SaysMembers characters written ∧ members = setMembers [] written := by
  constructor
  · rintro ⟨before, inside, after, first, last, spells, rfl⟩
    generalize same : Value.record members = value at spells
    cases spells with
    | word word member =>
      have others : ∀ word ∈ words, Value.record members ≠ word.2 := by simp [words]
      exact absurd same (others word member)
    | number _ amount => exact absurd (same ▸ amount) (value_ne_record members)
    | text _ => cases same
    | list _ => cases same
    | record spells =>
      cases same
      exact ⟨_, ⟨before, _, after, first, last, spells, by simp⟩, rfl⟩
  · rintro ⟨written, ⟨before, inside, after, first, last, spells, rfl⟩, rfl⟩
    exact ⟨before, _, after, first, last, .record spells, by simp⟩

/-- **Of several members of one name the last one counts.** -/
theorem member?_setMembers (name : LooseText) (taken written : List (LooseText × Value)) :
    Value.member? name (setMembers taken written)
      = (Value.member? name written.reverse).or (Value.member? name taken) := by
  induction written generalizing taken with
  | nil => rfl
  | cons first others ih =>
    have step : setMembers taken (first :: others)
        = setMembers (Value.setMember first.1 first.2 taken) others := rfl
    rw [step, ih, member?_setMember, List.reverse_cons]
    simp only [Value.member?, List.lookup_append, Option.or_assoc]
    congr 1
    obtain ⟨key, value⟩ := first
    by_cases same : name = key
    · simp [same]
    · simp [List.lookup_cons, same, beq_eq_false_iff_ne.mpr same]

end Json

namespace SettingsStore

open FileTree Files World

variable {path : Path} {tree : FileTree}

/-- A path names a file that can be read and whose bytes are the text of an object with these
members. -/
def Describes (tree : FileTree) (path : Path) (written : List (LooseText × Value)) : Prop :=
  ∃ mode text, tree.status path = .ok (.file (encode text) mode) ∧ tree.mayRead mode = true
    ∧ Json.SaysMembers text.toList written

/-- The settings that an object describes: in each field the value of the last member of its name,
or the default. -/
def describedBy (written : List (LooseText × Value)) : Settings where
  value field := (Value.member? field.name written.reverse).getD (Settings.defaults.value field)

/-- What is promised of loading: an object in the file overlays the defaults, and anything else
counts as the defaults. -/
structure Documented (tree : FileTree) (path : Path) (result : Except Failure Settings) : Prop where
  object : ∀ written, Describes tree path written → result = .ok (describedBy written)
  otherwise : (∀ written, ¬ Describes tree path written) → result = .ok .defaults

theorem Documented.exists_ok {result : Except Failure Settings}
    (documented : Documented tree path result) : ∃ settings, result = .ok settings := by
  by_cases described : ∃ written, Describes tree path written
  · obtain ⟨written, described⟩ := described
    exact ⟨_, documented.object written described⟩
  · exact ⟨_, documented.otherwise (not_exists.mp described)⟩

/-- The settings that a record of an object gives are those that the object describes. -/
theorem overlay_setMembers (written : List (LooseText × Value)) :
    Settings.defaults.overlay (Json.setMembers [] written) = describedBy written := by
  refine Settings.ext_value fun field => ?_
  have members := Json.member?_setMembers field.name [] written
  rw [show Value.member? field.name [] = none from rfl, Option.or_none] at members
  simp only [Settings.overlay, describedBy, members]

/-- Bytes that can be loaded from: they are encoded text, and no limit is in the way. -/
def Loadable (depths : Json.Depths) (bytes : Bytes) : Prop :=
  ∃ text, bytes = encode text ∧ ∀ fault, Json.read depths.read text = .error fault → ¬ fault.IsLimit

/-! ### Bytes -/

section Bytes

variable {depths : Json.Depths} {bytes : Bytes} {text : String}

/-- **Bytes are loaded exactly if they can be loaded from.** -/
theorem exists_ofBytes_iff :
    (∃ settings, ofBytes depths bytes = .ok settings) ↔ Loadable depths bytes := by
  constructor
  · rintro ⟨settings, ok⟩
    cases decoded : decode bytes with
    | error fault =>
      rw [ofBytes, decoded] at ok
      cases ok
    | ok text =>
      obtain rfl := decode_eq_ok_iff.mp decoded
      refine ⟨text, rfl, fun fault read limit => ?_⟩
      simp only [ofBytes, decode_encode, read] at ok
      cases fault with
      | malformed => exact limit
      | tooLong digits => cases ok
      | tooDeep container => cases ok
  · rintro ⟨text, rfl, free⟩
    simp only [ofBytes, decode_encode]
    cases read : Json.read depths.read text with
    | error fault =>
      cases fault with
      | malformed => exact ⟨_, rfl⟩
      | tooLong digits => exact absurd trivial (free _ read)
      | tooDeep container => exact absurd trivial (free _ read)
    | ok value => cases value <;> exact ⟨_, rfl⟩

/-- **What is loaded from the text of an object** is what the object describes. -/
theorem ofBytes_of_said {written : List (LooseText × Value)} {settings : Settings}
    (said : Json.SaysMembers text.toList written)
    (ok : ofBytes depths (encode text) = .ok settings) :
    settings = describedBy written := by
  have record : Json.Says text.toList (.record (Json.setMembers [] written)) :=
    Json.says_record_iff.mpr ⟨written, said, rfl⟩
  simp only [ofBytes, decode_encode] at ok
  have read : Json.read depths.read text = .ok (.record (Json.setMembers [] written)) ∨ _ :=
    Json.readWithin_of_said record (.usual depths.read)
  rcases read with read | ⟨fault, read, limit⟩
  · rw [read] at ok
    cases ok
    exact overlay_setMembers written
  · have same : Json.read depths.read text = .error fault := read
    rw [same] at ok
    cases fault with
    | malformed => exact limit.elim
    | tooLong digits => cases ok
    | tooDeep container => cases ok

/-- **What is loaded from anything else** is the defaults. -/
theorem ofBytes_of_unsaid {settings : Settings}
    (other : ∀ written, ¬ Json.SaysMembers text.toList written)
    (ok : ofBytes depths (encode text) = .ok settings) : settings = .defaults := by
  simp only [ofBytes, decode_encode] at ok
  split at ok
  · cases ok
    rfl
  · cases ok
  · rename_i members read
    obtain ⟨written, said, _⟩ := Json.says_record_iff.mp (Json.says_of_readWithin read)
    exact absurd said (other written)
  · cases ok
    rfl

end Bytes

/-! ### Files -/

section Files

variable {depths : Json.Depths}

/-- Why nothing is found under a path. -/
def IsMissing (fault : FileFault) : Prop :=
  fault = .nameTooLong ∨ ∀ path, saysNothingThere (.ofFile [path] fault) = true

theorem isMissing_of_walk {here : Location} {names : List Text.FileName} {fault : FileFault}
    (walked : tree.walk here names = .error fault) : IsMissing fault := by
  induction names generalizing here with
  | nil => cases walked
  | cons name rest ih =>
    unfold walk at walked
    split at walked
    · exact ih walked
    · split at walked
      · cases walked
        exact .inl rfl
      · split at walked
        · exact ih walked
        · cases walked
          exact .inr fun _ => rfl
        · cases walked
          exact .inr fun _ => rfl

theorem isMissing_of_systemNames {fault : FileFault} (refused : systemNames path = .error fault) :
    IsMissing fault := by
  unfold systemNames at refused
  split at refused
  · cases refused
    exact .inr fun _ => rfl
  · split at refused
    · cases refused
      exact .inr fun _ => rfl
    · split at refused
      · cases refused
        exact .inl rfl
      · cases refused

theorem isMissing_of_placeOf {fault : FileFault} (placed : tree.placeOf path = .error fault) :
    IsMissing fault := by
  have walked : ∀ {names : List Text.FileName} {found : Location → Place},
      (tree.walk (startOf path) names).map found = .error fault → IsMissing fault := by
    intro names found failed
    cases walked : tree.walk (startOf path) names with
    | ok place =>
      rw [walked] at failed
      cases failed
    | error other =>
      rw [walked] at failed
      cases failed
      exact isMissing_of_walk walked
  unfold placeOf at placed
  split at placed
  · rename_i refused
    cases placed
    exact isMissing_of_systemNames refused
  · split at placed
    · cases placed
    · split at placed <;> exact walked placed

/-- **A path names nothing because its name is too long, or the system says that nothing is there.**
-/
theorem isMissing_of_status {fault : FileFault} (status : tree.status path = .error fault) :
    IsMissing fault := by
  unfold FileTree.status at status
  split at status
  · rename_i refused
    cases status
    unfold locate at refused
    split at refused
    · split at refused
      · cases refused
        exact .inl rfl
      · cases refused
    · exact isMissing_of_placeOf refused
  · cases status
  · split at status
    · cases status
    · cases status
      exact .inr fun _ => rfl

/-- **What loading comes to**: it succeeds exactly if a name is not too long, and a file that can be
read can be loaded from. -/
theorem exists_said_iff :
    (∃ settings, said depths tree.privileged path (tree.status path) = .ok settings)
      ↔ tree.status path ≠ .error .nameTooLong
        ∧ ∀ content mode, tree.status path = .ok (.file content mode) → tree.mayRead mode = true →
          Loadable depths content := by
  cases status : tree.status path with
  | error fault =>
    rcases isMissing_of_status status with rfl | nothing
    · refine iff_of_false ?_ fun short => short.1 rfl
      rintro ⟨settings, ok⟩
      cases ok
    · have short : fault ≠ .nameTooLong := by
        rintro rfl
        exact absurd (nothing path) (by simp [saysNothingThere, Failure.ofFile, FileFault.number])
      exact iff_of_true ⟨.defaults, by rw [said, if_pos (nothing path)]⟩ (by simp [short])
  | ok entry =>
    cases entry with
    | directory => exact iff_of_true ⟨_, rfl⟩ (by simp)
    | file content mode =>
      have opened : (∀ other bits, Except.ok (ε := FileFault) (Entry.file content mode)
            = .ok (.file other bits) → tree.mayRead bits = true → Loadable depths other)
          ↔ (tree.mayRead mode = true → Loadable depths content) := by
        constructor
        · exact fun all => all content mode rfl
        · rintro loadable _ _ ⟨⟩
          exact loadable
      rw [opened]
      by_cases readable : tree.mayRead mode = true
      · rw [said, ← mayRead, if_pos readable, exists_ofBytes_iff]
        simp [readable]
      · exact iff_of_true ⟨.defaults, by rw [said, ← mayRead, if_neg readable]⟩ (by simp [readable])

/-- **What is loaded is what is promised**, if loading succeeds. -/
theorem documented_of_said {settings : Settings}
    (ok : said depths tree.privileged path (tree.status path) = .ok settings) :
    Documented tree path (.ok settings) := by
  constructor
  · rintro written ⟨mode, text, there, readable, members⟩
    rw [there, said, ← mayRead, if_pos readable] at ok
    rw [ofBytes_of_said members ok]
  · intro others
    cases status : tree.status path with
    | error fault =>
      rw [status, said] at ok
      split at ok
      · rw [← Except.ok.inj ok]
      · cases ok
    | ok entry =>
      rw [status] at ok
      cases entry with
      | directory => rw [← Except.ok.inj ok]
      | file content mode =>
        rw [said] at ok
        split at ok
        · rename_i readable
          obtain ⟨text, rfl, _⟩ := exists_ofBytes_iff.mp ⟨settings, ok⟩
          rw [ofBytes_of_unsaid (fun written members => others written
            ⟨mode, text, status, readable, members⟩) ok]
        · rw [← Except.ok.inj ok]

/-- **Loading keeps its promise exactly if** the name of the file is not too long, and the bytes of
a file that can be read are encoded text in which no limit is in the way. -/
theorem load_documented_iff (store : SettingsStore) (world : World) :
    Documented world.tree store.path (world.run store.load).1.1
      ↔ world.tree.status store.path ≠ .error .nameTooLong
        ∧ ∀ content mode, world.tree.status store.path = .ok (.file content mode) →
          world.tree.mayRead mode = true → Loadable store.depths content := by
  have loaded : (world.run store.load).1.1
      = said store.depths world.tree.privileged store.path (world.tree.status store.path) := by
    rw [load, run_remembering_eq, attempt_readFile]
    cases said store.depths world.tree.privileged store.path (world.tree.status store.path) <;> rfl
  rw [loaded, ← exists_said_iff]
  constructor
  · exact Documented.exists_ok
  · rintro ⟨settings, ok⟩
    rw [ok]
    exact documented_of_said ok

/-- A world with a settings file of one byte, which encodes nothing. -/
def binaryWorld : World :=
  { World.empty with tree := FileTree.empty.put ["settings.json"] (.file [0xff] 0o644) }

/-- A file that is no text does not count as the defaults: loading fails. -/
theorem binary_settings_fail :
    ¬ Documented binaryWorld.tree ⟨0, ["settings.json"]⟩
      (binaryWorld.run (ofPath .usual ⟨0, ["settings.json"]⟩).load).1.1 := by
  intro documented
  obtain ⟨settings, ok⟩ := documented.exists_ok
  have failed : (binaryWorld.run (ofPath .usual ⟨0, ["settings.json"]⟩).load).1.1.isOk = false := by
    decide +kernel
  rw [ok] at failed
  cases failed

end Files

end SettingsStore

end AssetFetch
