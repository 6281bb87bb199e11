/-
**What an assignment puts into a field.**

* `Field.Takes`: the values that are meant for a field, and `Settings.Valid`: settings with such a
  value in each;
* `trim_trim`: what has been trimmed has no blanks at its ends;
* `secondsOf_ok`: a number of seconds is positive and has few enough digits to be written;
* `parseAssignment_ok`: **an accepted assignment has a value that is meant for its field** and that
  is stable;
* `Settings.assigned`: values assigned to fields one after the other;
* `Settings.kept_defaults`, `Settings.Kept.assigned`: such values in all fields, from the defaults
  on.
-/

import AssetFetch.Proofs.Json.RoundTrip
import AssetFetch.Settings.Assignment
import Mathlib.Algebra.Group.Nat.Defs
import Mathlib.Data.List.DropRight

namespace AssetFetch

open AssetFetch.Text

/-! ### Valid settings -/

/-- The values that are meant for a field: positive numbers of seconds, none as well for a download,
one of the levels, and texts without blanks at their ends. -/
def Field.Takes : Field → Value → Prop
  | .requestTimeout, value => ∃ seconds : Int, 0 < seconds ∧ value = .int seconds
  | .downloadTimeout, value => value = .null ∨ ∃ seconds : Int, 0 < seconds ∧ value = .int seconds
  | .logLevel, value => ∃ level ∈ levelNames, value = .text (LooseText.ofString level)
  | _, value => ∃ text : String, trim text = text ∧ value = .text (LooseText.ofString text)

/-- Settings with a value that is meant for it in each field. -/
def Settings.Valid (settings : Settings) : Prop :=
  ∀ field : Field, field.Takes (settings.value field)

/-- What is meant for a field is no list and no record. -/
theorem Field.Takes.depth {field : Field} {value : Value} (takes : field.Takes value) :
    value.depth = 0 := by
  cases field with
  | requestTimeout =>
    obtain ⟨seconds, _, rfl⟩ := takes
    rfl
  | downloadTimeout =>
    obtain rfl | ⟨seconds, _, rfl⟩ := takes
    · rfl
    · rfl
  | logLevel =>
    obtain ⟨level, _, rfl⟩ := takes
    rfl
  | _ =>
    obtain ⟨text, _, rfl⟩ := takes
    rfl

/-! ### Texts and numbers -/

namespace Text

section Trimming

theorem trimChars_eq (characters : List Char) :
    trimChars characters = (characters.dropWhile isBlank).rdropWhile isBlank := rfl

/-- The blanks at the end do not show at the front. -/
theorem dropWhile_rdropWhile {characters : List Char}
    (solid : characters.dropWhile isBlank = characters) :
    (characters.rdropWhile isBlank).dropWhile isBlank = characters.rdropWhile isBlank := by
  cases kept : characters.rdropWhile isBlank with
  | nil => rfl
  | cons first others =>
    obtain ⟨rest, whole⟩ := List.rdropWhile_prefix isBlank characters
    rw [kept] at whole
    have apart : isBlank first = false := by
      by_contra blank
      rw [← whole, List.cons_append, List.dropWhile_cons_of_pos (by simpa using blank)] at solid
      have shorter := congrArg List.length solid
      have bound := List.length_dropWhile_le isBlank (others ++ rest)
      rw [List.length_cons] at shorter
      omega
    exact List.dropWhile_cons_of_neg (by simp [apart])

/-- **What has been trimmed has no blanks at its ends.** -/
theorem trim_trim (text : String) : trim (trim text) = trim text := by
  have front : (trimChars text.toList).dropWhile isBlank = trimChars text.toList :=
    dropWhile_rdropWhile (List.dropWhile_idempotent ..)
  have again : trimChars (trimChars text.toList) = trimChars text.toList := by
    rw [trimChars_eq, front, trimChars_eq]
    exact List.rdropWhile_idempotent ..
  rw [trim, trim, String.toList_ofList, again]

/-- A text without halves is trimmed as such. -/
theorem LooseText.trim_ofString (text : String) :
    (LooseText.ofString text).trim = LooseText.ofString (Text.trim text) := by
  have blank : LooseChar.isBlank ∘ LooseChar.char = isBlank := rfl
  simp only [LooseText.trim, LooseText.ofString, Text.trim, trimChars, String.toList_ofList,
    List.dropWhile_map, ← List.map_reverse, blank]

end Trimming

section Numerals

theorem digitValue?_lt {character : Char} {digit : Nat}
    (value : digitValue? character = some digit) : digit < 10 := by
  obtain ⟨first, found, rfl⟩ := Option.map_eq_some_iff.mp value
  have within := List.find?_some found
  simp only [Bool.and_eq_true, decide_eq_true_eq] at within
  omega

/-- A number with few digits is small. -/
theorem foldDigits_lt {digits : List Nat} (small : ∀ digit ∈ digits, digit < 10) :
    foldDigits 10 digits < 10 ^ digits.length := by
  induction digits using List.reverseRecOn with
  | nil => exact Nat.one_pos
  | append_singleton front last ih =>
    have before := ih fun digit member => small digit (List.mem_append_left _ member)
    have here : last < 10 := small last (by simp)
    have value : foldDigits 10 (front ++ [last]) = foldDigits 10 front * 10 + last := by
      simp [foldDigits]
    rw [value, List.length_append, List.length_singleton, Nat.pow_succ]
    omega

/-- A number that has been read has few enough digits to be written. -/
theorem digitCount_decimalNumber {text : String} {value : Nat}
    (read : decimalNumber text = .ok value) : digitCount value ≤ digitLimit := by
  unfold decimalNumber at read
  simp only at read
  split at read
  · cases read
  · rename_i short
    split at read
    · cases read
    · rename_i whole
      cases read
      simp only [Bool.or_eq_true, decide_eq_true_eq, not_or, ← String.length_toList] at whole
      have few : (text.toList.filterMap digitValue?).length ≤ digitLimit :=
        (List.length_filterMap_le ..).trans (by omega)
      have small : ∀ digit ∈ text.toList.filterMap digitValue?, digit < 10 := by
        intro digit member
        obtain ⟨character, _, value⟩ := List.mem_filterMap.mp member
        exact digitValue?_lt value
      rw [digitCount, Int.natAbs_natCast, Nat.length_toDigits_le_iff (by decide) (by decide)]
      exact (foldDigits_lt small).trans_le (Nat.pow_le_pow_right (by decide) few)

end Numerals

end Text

/-! ### Assignments -/

section Assignments

variable {field : Field} {text : String} {value : Value}

/-- **A number of seconds is positive and has few enough digits.** -/
theorem secondsOf_ok {seconds : Int} (read : secondsOf field text = .ok seconds) :
    0 < seconds ∧ digitCount seconds ≤ digitLimit := by
  unfold secondsOf at read
  split at read
  · cases read
  · split at read
    · cases read
    · cases read
    · rename_i number nonzero numeral
      cases read
      exact ⟨Int.natCast_pos.mpr (Nat.pos_of_ne_zero nonzero), digitCount_decimalNumber numeral⟩

/-- A value that is meant for a field and comes back when it is written and read. -/
structure Field.Keeps (field : Field) (value : Value) : Prop where
  takes : field.Takes value
  stable : value.IsStable

theorem Field.keeps_text {field : Field} (takes : field.Takes (.text (LooseText.ofString text))) :
    field.Keeps (.text (LooseText.ofString text)) :=
  ⟨takes, LooseText.isReduced_ofString text⟩

theorem keeps_seconds (read : (secondsOf field text).map Value.int = .ok value)
    (free : ∀ seconds : Int, 0 < seconds → field.Takes (.int seconds)) : field.Keeps value := by
  cases numeral : secondsOf field text with
  | error fault =>
    rw [numeral] at read
    cases read
  | ok seconds =>
    rw [numeral] at read
    cases read
    obtain ⟨positive, short⟩ := secondsOf_ok numeral
    exact ⟨free seconds positive, short⟩

/-- The value of a field in a trimmed text. -/
theorem parseFieldValue_ok (trimmed : trim text = text)
    (read : parseFieldValue field text = .ok value) : field.Keeps value := by
  cases field with
  | requestTimeout => exact keeps_seconds read fun seconds positive => ⟨seconds, positive, rfl⟩
  | downloadTimeout =>
    rw [parseFieldValue] at read
    split at read
    · cases read
      exact ⟨.inl rfl, trivial⟩
    · exact keeps_seconds read fun seconds positive => .inr ⟨seconds, positive, rfl⟩
  | logLevel =>
    rw [parseFieldValue] at read
    split at read
    · rename_i known
      cases read
      exact Field.keeps_text ⟨_, List.contains_iff_mem.mp known, rfl⟩
    · cases read
  | _ =>
    cases read
    exact Field.keeps_text ⟨text, trimmed, rfl⟩

/-- The parts of what holds a mark are those before and after its first place. -/
theorem partition?_eq_some_iff {α : Type} [BEq α] [LawfulBEq α] {mark : α}
    {items left right : List α} :
    partition? mark items = some (left, right) ↔ items = left ++ mark :: right ∧ mark ∉ left := by
  unfold partition?
  constructor
  · intro parts
    split at parts
    · rename_i here
      cases parts
      have whole := List.takeWhile_append_dropWhile (p := (· != mark)) (l := items)
      have before : mark ∉ items.takeWhile (· != mark) := fun member => by
        simpa using List.mem_takeWhile_imp member
      cases rest : items.dropWhile (· != mark) with
      | nil =>
        rw [rest, List.append_nil] at whole
        rw [whole] at before
        exact absurd (List.contains_iff_mem.mp here) before
      | cons first others =>
        have first_eq := List.head?_dropWhile_not (· != mark) items
        rw [rest] at whole first_eq
        obtain rfl : first = mark := by simpa using first_eq
        exact ⟨whole.symm, before⟩
    · cases parts
  · rintro ⟨rfl, before⟩
    have kept : ∀ item ∈ left, (item != mark) = true := by
      intro item member
      have apart : item ≠ mark := fun same => before (same ▸ member)
      simpa using apart
    rw [if_pos (by simp), List.takeWhile_append_of_pos kept, List.dropWhile_append_of_pos kept]
    simp

/-- **An assignment is accepted** if what stands before the first equals sign is, blanks around it
aside, the name of a field, and the rest gives a value of the field. -/
theorem parseAssignment_eq_ok_iff {text : LooseText} :
    parseAssignment text = .ok (field, value)
      ↔ ∃ left right, text.characters = left ++ .char '=' :: right ∧ .char '=' ∉ left
        ∧ Field.ofName? (LooseText.trim ⟨left⟩).shown = some field
        ∧ parseFieldValue field (LooseText.trim ⟨right⟩) = .ok value := by
  have unnamed : ∀ name : LooseText, name.isEmpty = true → Field.ofName? name.shown = none := by
    rintro ⟨_ | ⟨first, others⟩⟩ empty
    · decide
    · cases empty
  -- there is one way to part the text at the first equals sign
  simp only [← and_assoc, ← partition?_eq_some_iff]
  unfold parseAssignment
  cases partition? (.char '=') text.characters with
  | none => simp
  | some pair =>
    obtain ⟨left, right⟩ := pair
    simp only [Option.some.injEq, Prod.mk.injEq, and_assoc, exists_and_left, exists_eq_left']
    by_cases empty : (LooseText.trim ⟨left⟩).isEmpty = true
    · rw [if_pos empty]
      refine iff_of_false nofun ?_
      rintro ⟨named, _⟩
      rw [unnamed _ empty] at named
      cases named
    · rw [if_neg empty]
      cases named : Field.ofName? (LooseText.trim ⟨left⟩).shown with
      | none => exact iff_of_false nofun fun accepted => nomatch accepted.1
      | some other =>
        simp only [Option.some.injEq]
        constructor
        · intro accepted
          cases read : parseFieldValue other (LooseText.trim ⟨right⟩) with
          | error fault =>
            rw [read] at accepted
            cases accepted
          | ok found =>
            rw [read] at accepted
            cases accepted
            exact ⟨rfl, read⟩
        · rintro ⟨rfl, read⟩
          rw [read]
          rfl

/-- **An accepted assignment has a value that is meant for its field.** -/
theorem parseAssignment_ok (read : parseAssignment text = .ok (field, value)) :
    field.Keeps value := by
  obtain ⟨left, right, whole, _, _, parsed⟩ := parseAssignment_eq_ok_iff.mp read
  obtain ⟨before, behind, _, _, rest⟩ := List.map_eq_append_iff.mp whole
  obtain ⟨mark, after, _, _, rfl⟩ := List.map_eq_cons_iff.mp rest
  rw [show (⟨after.map .char⟩ : LooseText) = LooseText.ofString (String.ofList after) by
    rw [LooseText.ofString, String.toList_ofList], LooseText.trim_ofString] at parsed
  exact parseFieldValue_ok (trim_trim _) parsed

end Assignments

/-! ### Settings -/

namespace Settings

/-- Settings with a value in each field that is meant for it and comes back. -/
def Kept (settings : Settings) : Prop :=
  ∀ field : Field, field.Keeps (settings.value field)

theorem Kept.valid {settings : Settings} (kept : settings.Kept) : settings.Valid :=
  fun field => (kept field).takes

/-- **The defaults are valid.** -/
theorem kept_defaults : Settings.defaults.Kept := by
  intro field
  cases field with
  | requestTimeout =>
    have short : digitCount defaultRequestTimeout ≤ digitLimit := by decide
    exact ⟨⟨defaultRequestTimeout, by decide, rfl⟩, short⟩
  | downloadTimeout => exact ⟨.inl rfl, trivial⟩
  | logLevel => exact Field.keeps_text ⟨"INFO", by decide, rfl⟩
  | apiBase => exact Field.keeps_text ⟨defaultApiBase, by decide, rfl⟩
  | repository => exact Field.keeps_text ⟨defaultRepository, by decide, rfl⟩
  | releaseTag | assetName | downloadDirectory => exact Field.keeps_text ⟨"", by decide, rfl⟩

theorem Kept.set {settings : Settings} (kept : settings.Kept) {field : Field} {value : Value}
    (keeps : field.Keeps value) : (settings.set field value).Kept := by
  intro other
  unfold Settings.set
  by_cases same : other = field
  · simp only [if_pos same]
    exact same ▸ keeps
  · simp only [if_neg same]
    exact kept other

/-- Settings with values assigned to fields one after the other. -/
def assigned (settings : Settings) (assignments : List (Field × Value)) : Settings :=
  assignments.foldl (fun settings assignment => settings.set assignment.1 assignment.2) settings

theorem assigned_cons (settings : Settings) (first : Field × Value) (rest : List (Field × Value)) :
    settings.assigned (first :: rest) = (settings.set first.1 first.2).assigned rest := rfl

theorem assigned_append (settings : Settings) (first second : List (Field × Value)) :
    settings.assigned (first ++ second) = (settings.assigned first).assigned second :=
  List.foldl_append

theorem Kept.assigned {settings : Settings} (kept : settings.Kept)
    {assignments : List (Field × Value)}
    (keeps : ∀ assignment ∈ assignments, assignment.1.Keeps assignment.2) :
    (settings.assigned assignments).Kept := by
  induction assignments generalizing settings with
  | nil => exact kept
  | cons first rest ih =>
    have begun : (settings.set first.1 first.2).Kept := kept.set (keeps first List.mem_cons_self)
    exact ih begun fun assignment member => keeps assignment (.tail _ member)

end Settings

end AssetFetch
