/-
**A settings file says what was saved.**

* `Settings.Storable`: settings whose file says the same again, among them all with values that are
  meant for their fields (`Settings.Kept.storable`);
* `record_eq`, `isComplete_record`: such settings are written completely;
* `ofBytes_saved`: **what the bytes of such settings say is the settings**;
* `changesOf_eq`, `NamesFields.nameFault?`: the changes of a list of assignments, and that their
  names are in order;
* `overlay_changed`: **changing fields together is assigning one after the other.**
-/

import AssetFetch.App
import AssetFetch.Proofs.Settings.Assignment

namespace AssetFetch

open AssetFetch.Text

/-! ### Fields and names -/

namespace Field

theorem name_injective {first second : Field} (same : first.name = second.name) :
    first = second := by
  revert same
  cases first <;> cases second <;> decide

theorem mem_all (field : Field) : field ∈ all := by
  cases field <;> decide

/-- The name of a field is found again. -/
theorem ofName?_name (field : Field) : ofName? field.name = some field := by
  cases field <;> decide

theorem name_of_ofName? {name : String} {field : Field} (found : ofName? name = some field) :
    field.name = name := by
  unfold ofName? at found
  have same := List.find?_some found
  exact beq_iff_eq.mp same

end Field

/-! ### What is saved -/

namespace Settings

/-- Settings that can be written completely and come back. -/
structure Storable (depths : Json.Depths) (settings : Settings) : Prop where
  stable : ∀ field, (settings.value field).IsStable
  shallow : ∀ field, (settings.value field).depth ≤ depths.written

theorem Kept.storable {settings : Settings} (kept : settings.Kept) (depths : Json.Depths) :
    settings.Storable depths where
  stable field := (kept field).stable
  shallow field := by
    rw [(kept field).takes.depth]
    exact Nat.zero_le _

theorem ext_value {first second : Settings}
    (same : ∀ field, first.value field = second.value field) : first = second := by
  cases first
  cases second
  exact congrArg _ (funext same)

/-- The member of a field among the members of all. -/
theorem member?_fields {fields : List Field} {field : Field} (value : Field → Value)
    (member : field ∈ fields) :
    Value.member? (LooseText.ofString field.name)
        (fields.map fun field => (LooseText.ofString field.name, value field))
      = some (value field) := by
  induction fields with
  | nil => cases member
  | cons first rest ih =>
    rw [List.map_cons, Value.member?, List.lookup_cons]
    by_cases same : field = first
    · subst same
      simp
    · have apart : (LooseText.ofString field.name == LooseText.ofString first.name) = false :=
        beq_eq_false_iff_ne.mpr fun equal =>
          same (Field.name_injective (LooseText.ofString_inj.mp equal))
      rw [apart]
      exact ih (List.mem_of_ne_of_mem same member)

/-- **The record of settings holds the settings.** -/
theorem overlay_fields (settings others : Settings) :
    others.overlay (Field.all.map fun field =>
      (LooseText.ofString field.name, settings.value field)) = settings := by
  refine ext_value fun field => ?_
  simp only [overlay, member?_fields settings.value (Field.mem_all field), Option.getD_some]

/-- A field that is not among others has another name than they. -/
theorem name_notMem_fields {fields : List Field} {field : Field} (value : Field → Value)
    (new : field ∉ fields) :
    LooseText.ofString field.name
      ∉ (fields.map fun field => (LooseText.ofString field.name, value field)).map Prod.fst := by
  rw [List.map_map]
  intro member
  obtain ⟨other, inside, same⟩ := List.mem_map.mp member
  exact new (Field.name_injective (LooseText.ofString_inj.mp same) ▸ inside)

theorem areStable_fields {settings : Settings} (stable : ∀ field, (settings.value field).IsStable)
    {fields : List Field} (distinct : fields.Nodup) :
    Value.AreStableMembers
      (fields.map fun field => (LooseText.ofString field.name, settings.value field)) := by
  induction fields with
  | nil => trivial
  | cons first rest ih =>
    obtain ⟨new, others⟩ := List.nodup_cons.mp distinct
    exact ⟨LooseText.isReduced_ofString _, name_notMem_fields _ new, stable first, ih others⟩

theorem Storable.toValue {depths : Json.Depths} {settings : Settings}
    (storable : settings.Storable depths) :
    settings.toValue.IsStable :=
  areStable_fields storable.stable (by decide)

theorem depthOfMembers_le {settings : Settings} {depth : Nat}
    (shallow : ∀ field, (settings.value field).depth ≤ depth) (fields : List Field) :
    Value.depthOfMembers
      (fields.map fun field => (LooseText.ofString field.name, settings.value field)) ≤ depth := by
  induction fields with
  | nil => exact Nat.zero_le _
  | cons first rest ih => exact Nat.max_le.mpr ⟨shallow first, ih⟩

end Settings

namespace SettingsStore

variable {depths : Json.Depths} {settings : Settings}

/-- Such settings are not nested too deep. -/
theorem record_eq (storable : settings.Storable depths) :
    record depths settings = .ok settings.toValue := by
  have shallow : isTooDeep depths settings = false := by
    simp only [isTooDeep, List.any_eq_false, decide_eq_true_eq, Nat.not_lt]
    exact fun field _ => storable.shallow field
  rw [record, shallow]
  rfl

/-- The bytes that a settings file has after a save. -/
def savedBytes (settings : Settings) : Bytes :=
  encode (Json.writtenText (Json.writes 0 "" settings.toValue))

theorem isComplete_record (storable : settings.Storable depths) :
    Json.isComplete (Json.writes 0 "" settings.toValue) = true :=
  (Json.gives_writes 0 "" _ storable.toValue).complete

/-- **What the bytes of saved settings say is the settings.** -/
theorem ofBytes_saved (storable : settings.Storable depths) :
    ofBytes depths (savedBytes settings) = .ok settings := by
  have depth : settings.toValue.depth ≤ depths.read := by
    have inside := Settings.depthOfMembers_le storable.shallow Field.all
    have room : 1 + depths.written ≤ depths.read := by
      rw [Nat.add_comm]
      exact depths.fewer
    exact (Nat.add_le_add_left inside 1).trans room
  have read := Json.readWithin_writtenText storable.toValue (Json.Limits.suit_usual depth)
  rw [ofBytes, savedBytes, decode_encode]
  simp only [Json.read, read]
  exact congrArg _ (settings.overlay_fields .defaults)

end SettingsStore

/-! ### What is changed -/

section Changes

/-- The changes of a list of assignments. -/
def changed (assignments : List (Field × Value)) : List (LooseText × Value) :=
  assignments.foldl (fun changes assignment =>
    Value.setMember assignment.1.name assignment.2 changes) []

theorem changesOf_eq (assignments : List (Field × Value)) :
    App.changesOf (assignments.map some) = .ok (changed assignments) := by
  have none : (assignments.map some).findIdx? Option.isNone = none := by
    rw [List.findIdx?_eq_none_iff]
    intro assignment member
    obtain ⟨_, _, rfl⟩ := List.mem_map.mp member
    rfl
  have all : (assignments.map some).filterMap id = assignments := by
    rw [List.filterMap_map]
    exact List.filterMap_some
  rw [App.changesOf, none, all]
  rfl

/-- The members after one has been set. -/
theorem member?_setMember (name other : LooseText) (value : Value)
    (members : List (LooseText × Value)) :
    Value.member? other (Value.setMember name value members)
      = if other = name then some value else Value.member? other members := by
  induction members with
  | nil =>
    by_cases same : other = name
    · simp [Value.setMember, Value.member?, same]
    · have apart : (other == name) = false := beq_eq_false_iff_ne.mpr same
      simp [Value.setMember, Value.member?, List.lookup_cons, apart, same]
  | cons first rest ih =>
    obtain ⟨key, old⟩ := first
    rw [Value.setMember]
    by_cases here : key = name
    · subst here
      by_cases same : other = key
      · simp [Value.member?, same]
      · have apart : (other == key) = false := beq_eq_false_iff_ne.mpr same
        simp [Value.member?, List.lookup_cons, apart, same]
    · have later : (key == name) = false := beq_eq_false_iff_ne.mpr here
      rw [later, if_neg Bool.false_ne_true]
      by_cases same : other = key
      · subst same
        simp [Value.member?, here]
      · have apart : (other == key) = false := beq_eq_false_iff_ne.mpr same
        simp only [Value.member?, List.lookup_cons, apart] at ih ⊢
        exact ih

/-- One more change is one more assignment. -/
theorem overlay_setMember (settings : Settings) (field : Field) (value : Value)
    (changes : List (LooseText × Value)) :
    settings.overlay (Value.setMember field.name value changes)
      = (settings.overlay changes).set field value := by
  refine Settings.ext_value fun other => ?_
  simp only [Settings.overlay, Settings.set, member?_setMember]
  by_cases same : other = field
  · rw [if_pos (by rw [same]), if_pos same, Option.getD_some]
  · have apart : LooseText.ofString other.name ≠ LooseText.ofString field.name := fun equal =>
      same (Field.name_injective (LooseText.ofString_inj.mp equal))
    rw [if_neg apart, if_neg same]

/-- **Changing fields together is assigning one after the other.** -/
theorem overlay_changed (settings : Settings) (assignments : List (Field × Value)) :
    settings.overlay (changed assignments) = settings.assigned assignments := by
  have start : settings.overlay [] = settings := rfl
  have steps : ∀ changes, settings.overlay (assignments.foldl (fun changes assignment =>
        Value.setMember assignment.1.name assignment.2 changes) changes)
      = (settings.overlay changes).assigned assignments := by
    intro changes
    induction assignments generalizing changes with
    | nil => rfl
    | cons first rest ih => rw [List.foldl_cons, ih, overlay_setMember, Settings.assigned_cons]
  rw [changed, steps, start]

/-- Only fields are named. -/
def NamesFields (changes : List (LooseText × Value)) : Prop :=
  ∀ change ∈ changes, ∃ field : Field, change.1 = LooseText.ofString field.name

theorem NamesFields.setMember {changes : List (LooseText × Value)} (names : NamesFields changes)
    (field : Field) (value : Value) : NamesFields (Value.setMember field.name value changes) := by
  induction changes with
  | nil =>
    intro change member
    cases member with
    | head => exact ⟨field, rfl⟩
    | tail _ member => cases member
  | cons first rest ih =>
    obtain ⟨key, old⟩ := first
    have others : NamesFields rest := fun change member => names change (.tail _ member)
    rw [Value.setMember]
    split
    · intro change member
      cases member with
      | head => exact ⟨field, rfl⟩
      | tail _ member => exact others change member
    · intro change member
      cases member with
      | head => exact names _ List.mem_cons_self
      | tail _ member => exact ih others change member

theorem namesFields_changed (assignments : List (Field × Value)) :
    NamesFields (changed assignments) := by
  have steps : ∀ changes, NamesFields changes → NamesFields (assignments.foldl (fun changes
      assignment => Value.setMember assignment.1.name assignment.2 changes) changes) := by
    intro changes names
    induction assignments generalizing changes with
    | nil => exact names
    | cons first rest ih => exact ih _ (names.setMember first.1 first.2)
  have start : NamesFields [] := fun change member => absurd member List.not_mem_nil
  exact steps [] start

/-- **The names of assignments are in order.** -/
theorem NamesFields.nameFault? {changes : List (LooseText × Value)} (names : NamesFields changes) :
    SettingsStore.nameFault? changes = none := by
  have reserved : Value.member? SettingsStore.reservedName changes = none := by
    rw [Value.member?, List.lookup_eq_none_iff]
    intro change member
    obtain ⟨field, same⟩ := names change member
    have apart : SettingsStore.reservedName ≠ field.name := by cases field <;> decide
    rw [same]
    exact bne_iff_ne.mpr fun equal => apart (LooseText.ofString_inj.mp equal)
  have known : SettingsStore.unknownNames changes = [] := by
    have none : (changes.map fun change => change.1.shown).filter
        (fun name => (Field.ofName? name).isNone) = [] := by
      rw [List.filter_eq_nil_iff]
      intro name member
      obtain ⟨change, inside, rfl⟩ := List.mem_map.mp member
      obtain ⟨field, same⟩ := names change inside
      rw [same, LooseText.shown_ofString, Field.ofName?_name]
      exact Bool.false_ne_true
    rw [SettingsStore.unknownNames, none, List.mergeSort_nil]
  rw [SettingsStore.nameFault?, reserved, known]
  rfl

end Changes

end AssetFetch
