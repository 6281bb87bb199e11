/-
**Which texts are assignments.**

The name and the value of an assignment stand before and after the first equals sign, blanks around
them aside. Half of a pair belongs to no name, no digit and no level, although it is shown as a
character.

* `LooseText.shown_eq_iff`: a text without the replacement character is shown by itself only;
* `lower_of_digits`: digits of every script are as small as they get, so no number says `none`;
* `Field.Reads`: what a field reads in a text, and `IsAssignment`: the assignments;
* `Field.Admits`, `Value.spelled`: the values that a field may have, and the text of a value;
* `parseAssignment_exact`: **assignments are parsed exactly**: they give their field and value,
  everything else is refused, and every value of a field is given by its text.
-/

import AssetFetch.Proofs.Json.Numbers
import AssetFetch.Proofs.Settings.File
import AssetFetch.Proofs.Text.Numerals

namespace AssetFetch

open AssetFetch.Text

/-! ### Halves in names, levels and numbers -/

namespace Text

section Halves

variable {text : LooseText} {word : String} {characters : List Char}

/-- The character in whose shape halves are shown. -/
def replacement : Char := '\uFFFD'

/-- **A text without the replacement character is shown by itself only.** -/
theorem LooseText.shown_eq_iff (plain : replacement ∉ word.toList) :
    text.shown = word ↔ text = LooseText.ofString word := by
  constructor
  · rintro rfl
    obtain ⟨characters⟩ := text
    have whole : ∀ character ∈ characters, character = .char character.shown := by
      rintro (character | offset) member
      · rfl
      · refine absurd ?_ plain
        rw [LooseText.shown, String.toList_ofList]
        exact List.mem_map.mpr ⟨.half offset, member, rfl⟩
    rw [LooseText.ofString, LooseText.shown, String.toList_ofList, List.map_map]
    exact congrArg LooseText.mk ((List.map_id _).symm.trans (List.map_congr_left whole))
  · rintro rfl
    exact LooseText.shown_ofString word

theorem replacement_mem_lowerChars (before : List Char) (member : replacement ∈ characters) :
    replacement ∈ lowerChars before characters := by
  induction characters generalizing before with
  | nil => cases member
  | cons first rest ih =>
    rw [lowerChars]
    rcases List.mem_cons.mp member with rfl | member
    · have same : lowerChar replacement = [replacement] := by decide +kernel
      exact List.mem_append_left _ (same ▸ List.mem_singleton_self _)
    · exact List.mem_append_right _ (ih (first :: before) member)

/-- No text with a half has small letters without the replacement character. -/
theorem lower_shown_eq_iff (plain : replacement ∉ word.toList) :
    lower text.shown = word ↔ ∃ other, text = LooseText.ofString other ∧ lower other = word := by
  constructor
  · intro same
    have kept : replacement ∉ text.shown.toList := fun member => plain <| by
      rw [← same, lower, String.toList_ofList]
      exact replacement_mem_lowerChars [] member
    exact ⟨text.shown, (LooseText.shown_eq_iff kept).mp rfl, same⟩
  · rintro ⟨other, rfl, same⟩
    rw [LooseText.shown_ofString, same]

/-- No text with a half has capitals without the replacement character. -/
theorem upper_shown_eq_iff (plain : replacement ∉ word.toList) :
    upper text.shown = word ↔ ∃ other, text = LooseText.ofString other ∧ upper other = word := by
  constructor
  · intro same
    have kept : replacement ∉ text.shown.toList := fun member => plain <| by
      rw [← same, upper, String.toList_ofList]
      exact List.mem_flatMap.mpr ⟨replacement, member, by decide⟩
    exact ⟨text.shown, (LooseText.shown_eq_iff kept).mp rfl, same⟩
  · rintro ⟨other, rfl, same⟩
    rw [LooseText.shown_ofString, same]

end Halves

/-! ### Digits -/

section Digits

variable {characters : List Char} {character : Char} {number : Nat}

/-- A digit lies at most nine places behind the zero of its script. -/
theorem exists_scriptDigit (decimal : isDecimalDigit character = true) :
    ∃ start ∈ decimalZeros, ∃ digit < 10, character.toNat = start + digit := by
  obtain ⟨digit, value⟩ := Option.isSome_iff_exists.mp decimal
  have small := digitValue?_lt value
  obtain ⟨start, found, rfl⟩ := Option.map_eq_some_iff.mp value
  have within := List.find?_some found
  simp only [Bool.and_eq_true, decide_eq_true_eq] at within
  exact ⟨start, List.mem_of_find?_eq_some found, _, small, by omega⟩

/-- The digits of a script lie apart from every run of capitals, the dotted one, and the sigma. -/
theorem digits_apart_from_capitals : (decimalZeros.all fun start =>
    (capitalRuns.all fun run => run.last < start || start + 9 < run.first)
      && (0x3A3 < start || start + 9 < 0x3A3) && (0x130 < start || start + 9 < 0x130)) = true := by
  decide +kernel

/-- No digit of any script is a capital, the dotted one and the sigma included. -/
theorem not_capital_of_isDecimalDigit (decimal : isDecimalDigit character = true) :
    character ≠ '\u03A3' ∧ character ≠ '\u0130'
      ∧ (capitalRuns.findSome? fun run => run.small? character.toNat) = none := by
  obtain ⟨start, known, digit, small, place⟩ := exists_scriptDigit decimal
  have apart := List.all_eq_true.mp digits_apart_from_capitals start known
  simp only [Bool.and_eq_true, Bool.or_eq_true, decide_eq_true_eq, List.all_eq_true] at apart
  obtain ⟨⟨runs, sigma⟩, dotted⟩ := apart
  refine ⟨?_, ?_, List.findSome?_eq_none_iff.mpr fun run member => ?_⟩
  · rintro rfl
    have point : ('\u03A3').toNat = 0x3A3 := rfl
    omega
  · rintro rfl
    have point : ('\u0130').toNat = 0x130 := rfl
    omega
  · have outside : (run.first ≤ character.toNat && character.toNat ≤ run.last) = false := by
      rw [Bool.and_eq_false_iff, decide_eq_false_iff_not, decide_eq_false_iff_not]
      have := runs run member
      omega
    rw [CapitalRun.small?, outside, Bool.false_and]
    rfl

/-- **Digits are as small as they get.** -/
theorem lowerChars_of_digits (before : List Char)
    (decimal : ∀ character ∈ characters, isDecimalDigit character = true) :
    lowerChars before characters = characters := by
  induction characters generalizing before with
  | nil => rfl
  | cons first rest ih =>
    obtain ⟨here, later⟩ := List.forall_mem_cons.mp decimal
    obtain ⟨sigma, dotted, capital⟩ := not_capital_of_isDecimalDigit here
    simp only [lowerChars, beq_eq_false_iff_ne.mpr sigma, lowerChar, beq_eq_false_iff_ne.mpr dotted,
      capital, Bool.false_eq_true, if_false, List.singleton_append, ih (first :: before) later]

/-- No number says `none`. -/
theorem Denotes.lower_ne {text : String} (denotes : Denotes text.toList number) :
    lower text ≠ "" ∧ lower text ≠ "none" := by
  rw [lower, lowerChars_of_digits [] denotes.digits, String.ofList_toList]
  constructor
  · rintro rfl
    exact denotes.1 rfl
  · rintro rfl
    exact absurd (denotes.digits 'n' (by decide)) (by decide +kernel)

theorem digitValue?_of_isPlainDigit (plain : isPlainDigit character = true) :
    digitValue? character = some (character.toNat - 0x30) := by
  rw [isPlainDigit, Bool.and_eq_true, decide_eq_true_eq, decide_eq_true_eq] at plain
  have above : 0x30 ≤ character.toNat := plain.1
  have below : character.toNat ≤ 0x39 := plain.2
  rw [digitValue?, decimalZeros, List.find?_cons_of_pos]
  · rfl
  · rw [Bool.and_eq_true, decide_eq_true_eq, decide_eq_true_eq]
    omega

/-- **The digits of a number denote it.** -/
theorem denotes_toDigits (value : Nat) : Denotes (Nat.toDigits 10 value) value := by
  have worth : (Nat.toDigits 10 value).map digitValue?
      = ((Nat.toDigits 10 value).map fun digit => digit.toNat - 0x30).map some := by
    rw [List.map_map]
    exact List.map_congr_left fun _ member =>
      digitValue?_of_isPlainDigit (Json.isPlainDigit_of_mem_toDigits member)
  refine ⟨Nat.toDigits_ne_nil, _, worth, ?_⟩
  rw [← foldDigits_eq_ofDigits]
  exact (Json.digitsValue_toDigits value).symm

/-- A text without blanks is trimmed. -/
theorem trim_of_solid {text : String}
    (solid : ∀ character ∈ text.toList, isBlank character = false) : trim text = text := by
  have front : text.toList.dropWhile isBlank = text.toList := by
    rw [List.dropWhile_eq_self_iff]
    intro inside
    simpa using solid _ (List.getElem_mem inside)
  have back : text.toList.rdropWhile isBlank = text.toList := by
    rw [List.rdropWhile_eq_self_iff]
    intro some_character
    simpa using solid _ (List.getLast_mem some_character)
  rw [trim, trimChars_eq, front, back, String.ofList_toList]

theorem isBlank_of_isPlainDigit (plain : isPlainDigit character = true) :
    isBlank character = false := by
  rw [isPlainDigit, Bool.and_eq_true, decide_eq_true_eq, decide_eq_true_eq] at plain
  have above : 0x30 ≤ character.toNat := plain.1
  have below : character.toNat ≤ 0x39 := plain.2
  simp only [isBlank, inRanges, blankRanges, List.any_cons, List.any_nil, Bool.or_false,
    Bool.or_eq_false_iff, Bool.and_eq_false_iff, decide_eq_false_iff_not]
  omega

end Digits

end Text

/-! ### What a field reads -/

section Reading

variable {field : Field} {text : LooseText} {value : Value}

/-- The text is a number of seconds: few enough decimal digits, which denote a positive number. -/
def ReadsSeconds (text : LooseText) (seconds : Int) : Prop :=
  ∃ digits : String, text = LooseText.ofString digits ∧ digits.toList.length ≤ digitLimit
    ∧ ∃ number, Denotes digits.toList number ∧ 0 < number ∧ seconds = number

/-- The text says that there is no limit: nothing at all, or `none` in letters of any size. -/
def SaysNone (text : LooseText) : Prop :=
  ∃ word : String, text = LooseText.ofString word ∧ (lower word = "" ∨ lower word = "none")

/-- The capitals of the text are a level. -/
def NamesLevel (text : LooseText) (level : String) : Prop :=
  level ∈ levelNames ∧ ∃ word : String, text = LooseText.ofString word ∧ upper word = level

/-- What a field reads in a text without blanks around it: a positive number of seconds, or nothing
where there may be no limit, a level, and otherwise the text as it is. -/
def Field.Reads : Field → LooseText → Value → Prop
  | .requestTimeout, text, value => ∃ seconds, ReadsSeconds text seconds ∧ value = .int seconds
  | .downloadTimeout, text, value =>
    (SaysNone text ∧ value = .null) ∨ ∃ seconds, ReadsSeconds text seconds ∧ value = .int seconds
  | .logLevel, text, value => ∃ level, NamesLevel text level ∧ value = .text level
  | _, text, value => value = .text text

/-- **A number of seconds is read from few enough digits of a positive number.** -/
theorem secondsOf_eq_ok_iff {word : String} {seconds : Int} :
    secondsOf field word = .ok seconds
      ↔ word.toList.length ≤ digitLimit
        ∧ ∃ number, Denotes word.toList number ∧ 0 < number ∧ seconds = number := by
  unfold secondsOf
  by_cases digits : (word.isEmpty || !word.toList.all isDigit) = true
  · rw [if_pos digits]
    refine iff_of_false nofun ?_
    rintro ⟨_, number, denotes, _⟩
    have all : word.toList.all isDigit = true := List.all_eq_true.mpr fun character member =>
      isDigit_of_isDecimalDigit (denotes.digits character member)
    have empty : word.isEmpty = true := by simpa [all] using digits
    exact denotes.1 (by simpa using empty)
  · rw [if_neg digits]
    cases numeral : decimalNumber word with
    | error fault =>
      refine iff_of_false nofun ?_
      rintro ⟨short, number, denotes, _⟩
      rw [decimalNumber_eq_ok_iff.mpr ⟨denotes, short⟩] at numeral
      cases numeral
    | ok found =>
      obtain ⟨denotes, short⟩ := decimalNumber_eq_ok_iff.mp numeral
      have only : ∀ number, Denotes word.toList number ↔ number = found := fun number =>
        ⟨fun other => (denotes_iff.mp other).2.2.trans (denotes_iff.mp denotes).2.2.symm,
          fun same => same ▸ denotes⟩
      simp only [only, exists_eq_left, short, true_and]
      cases found with
      | zero => exact iff_of_false nofun fun positive => absurd positive.1 (Nat.lt_irrefl 0)
      | succ smaller => simp [eq_comm]

theorem secondsOf_shown_eq_ok_iff {seconds : Int} :
    secondsOf field text.shown = .ok seconds ↔ ReadsSeconds text seconds := by
  rw [secondsOf_eq_ok_iff]
  constructor
  · rintro ⟨short, number, denotes, positive, same⟩
    have plain : replacement ∉ text.shown.toList := fun member =>
      absurd (denotes.digits replacement member) (by decide +kernel)
    have shown := (LooseText.shown_eq_iff plain).mp rfl
    exact ⟨text.shown, shown, short, number, denotes, positive, same⟩
  · rintro ⟨digits, rfl, read⟩
    rw [LooseText.shown_ofString]
    exact read

theorem map_secondsOf_eq_ok_iff :
    (secondsOf field text.shown).map Value.int = .ok value
      ↔ ∃ seconds, ReadsSeconds text seconds ∧ value = .int seconds := by
  have read : ∀ seconds, secondsOf field text.shown = .ok seconds ↔ ReadsSeconds text seconds :=
    fun _ => secondsOf_shown_eq_ok_iff
  simp only [← read]
  cases secondsOf field text.shown with
  | error fault => simp [Except.map]
  | ok seconds => simp [Except.map, eq_comm]

/-- Nothing is said exactly by texts whose small letters are nothing or `none`. -/
theorem saysNone_iff :
    SaysNone text ↔ (lower text.shown == "" || lower text.shown == "none") = true := by
  rw [Bool.or_eq_true, beq_iff_eq, beq_iff_eq, lower_shown_eq_iff (by decide),
    lower_shown_eq_iff (by decide), ← exists_or]
  simp only [SaysNone, and_or_left]

/-- The level of a text is the text in capitals. -/
theorem namesLevel_iff {level : String} :
    NamesLevel text level ↔ level ∈ levelNames ∧ upper text.shown = level := by
  refine and_congr_right fun member => (upper_shown_eq_iff ?_).symm
  exact (by decide : ∀ level ∈ levelNames, replacement ∉ level.toList) level member

/-- No number of seconds says that there is no limit. -/
theorem ReadsSeconds.not_saysNone {seconds : Int} (reads : ReadsSeconds text seconds) :
    ¬ SaysNone text := by
  obtain ⟨digits, rfl, _, number, denotes, _⟩ := reads
  rintro ⟨word, same, silent⟩
  obtain rfl := LooseText.ofString_inj.mp same
  exact silent.elim denotes.lower_ne.1 denotes.lower_ne.2

/-- **A field reads in a text what it should.** -/
theorem parseFieldValue_eq_ok_iff :
    parseFieldValue field text = .ok value ↔ field.Reads text value := by
  cases field with
  | requestTimeout => exact map_secondsOf_eq_ok_iff
  | downloadTimeout =>
    rw [parseFieldValue, Field.Reads]
    by_cases none : (lower text.shown == "" || lower text.shown == "none") = true
    · have silent := saysNone_iff.mpr none
      have numberless : ¬ ∃ seconds, ReadsSeconds text seconds ∧ value = .int seconds := by
        rintro ⟨_, reads, _⟩
        exact reads.not_saysNone silent
      rw [if_pos none]
      simp only [silent, numberless, true_and, or_false, Except.ok.injEq, eq_comm]
    · have loud : ¬ SaysNone text := fun silent => none (saysNone_iff.mp silent)
      simp only [if_neg none, loud, false_and, false_or, map_secondsOf_eq_ok_iff]
  | logLevel =>
    rw [parseFieldValue, Field.Reads]
    by_cases known : levelNames.contains (upper text.shown) = true
    · have names := namesLevel_iff.mpr ⟨List.contains_iff_mem.mp known, rfl⟩
      rw [if_pos known]
      constructor
      · rintro ⟨⟩
        exact ⟨_, names, rfl⟩
      · rintro ⟨level, named, rfl⟩
        rw [(namesLevel_iff.mp named).2]
    · rw [if_neg known]
      refine iff_of_false (fun read => by cases read) ?_
      rintro ⟨level, named, _⟩
      obtain ⟨member, same⟩ := namesLevel_iff.mp named
      exact known (List.contains_iff_mem.mpr (same ▸ member))
  | _ =>
    simp only [parseFieldValue, Field.Reads, Except.ok.injEq, eq_comm]

end Reading

/-! ### Assignments -/

section Assignments

variable {field : Field} {text : LooseText} {value : Value}

/-- **The assignments**: before the first equals sign stands the name of a field and after it what
the field reads as the value, blanks around both aside. -/
def IsAssignment (text : LooseText) (field : Field) (value : Value) : Prop :=
  ∃ left right, text.characters = left ++ .char '=' :: right ∧ .char '=' ∉ left
    ∧ LooseText.trim ⟨left⟩ = LooseText.ofString field.name
    ∧ field.Reads (LooseText.trim ⟨right⟩) value

/-- The values that a field may have: a positive number of seconds that can be written, or nothing
where there may be no limit, a level, and otherwise a text without blanks at its ends. -/
def Field.Admits : Field → Value → Prop
  | .requestTimeout, value =>
    ∃ seconds : Int, 0 < seconds ∧ digitCount seconds ≤ digitLimit ∧ value = .int seconds
  | .downloadTimeout, value =>
    value = .null
      ∨ ∃ seconds : Int, 0 < seconds ∧ digitCount seconds ≤ digitLimit ∧ value = .int seconds
  | .logLevel, value => ∃ level ∈ levelNames, value = .text (LooseText.ofString level)
  | _, value => ∃ text : LooseText, text.trim = text ∧ value = .text text

/-- The text of a value: a text as it is, halves included, anything else as a literal. -/
def Value.spelled : Value → LooseText
  | .text characters => characters
  | other => LooseText.ofString other.literal

/-- The assignment of a value to a field, written without blanks. -/
def Field.assignment (field : Field) (value : Value) : LooseText :=
  ⟨(LooseText.ofString field.name).characters ++ .char '=' :: value.spelled.characters⟩

theorem Field.ofName?_shown_eq_iff {name : LooseText} :
    Field.ofName? name.shown = some field ↔ name = LooseText.ofString field.name := by
  have plain : replacement ∉ field.name.toList := by cases field <;> decide
  rw [← LooseText.shown_eq_iff plain]
  constructor
  · exact fun found => (Field.name_of_ofName? found).symm
  · intro same
    rw [same, Field.ofName?_name]

/-- **A text gives a field and a value exactly if it assigns the value to the field.** -/
theorem parseAssignment_eq_ok_iff_isAssignment :
    parseAssignment text = .ok (field, value) ↔ IsAssignment text field value := by
  simp only [parseAssignment_eq_ok_iff, Field.ofName?_shown_eq_iff, parseFieldValue_eq_ok_iff,
    IsAssignment]

theorem trim_intText (value : Int) : trim (intText value) = intText value := by
  refine trim_of_solid fun character member => ?_
  rw [Json.intText_toList] at member
  have plain : ∀ digit ∈ Nat.toDigits 10 value.natAbs, isBlank digit = false := fun _ inside =>
    isBlank_of_isPlainDigit (Json.isPlainDigit_of_mem_toDigits inside)
  split at member
  · rcases List.mem_cons.mp member with rfl | inside
    · decide
    · exact plain character inside
  · exact plain character member

theorem readsSeconds_intText {seconds : Int} (positive : 0 < seconds)
    (short : digitCount seconds ≤ digitLimit) :
    ReadsSeconds (LooseText.ofString (intText seconds)) seconds := by
  have digits : (intText seconds).toList = Nat.toDigits 10 seconds.natAbs := by
    rw [Json.intText_toList, if_neg (by omega)]
  refine ⟨intText seconds, rfl, ?_, seconds.natAbs, ?_, ?_, ?_⟩
  · rw [digits]
    exact short
  · rw [digits]
    exact denotes_toDigits seconds.natAbs
  · omega
  · omega

/-- **A field reads its values in their texts.** -/
theorem Field.Admits.reads (admits : field.Admits value) : field.Reads value.spelled value := by
  cases field with
  | requestTimeout =>
    obtain ⟨seconds, positive, short, rfl⟩ := admits
    exact ⟨seconds, readsSeconds_intText positive short, rfl⟩
  | downloadTimeout =>
    obtain rfl | ⟨seconds, positive, short, rfl⟩ := admits
    · exact .inl ⟨⟨"None", rfl, .inr (by decide +kernel)⟩, rfl⟩
    · exact .inr ⟨seconds, readsSeconds_intText positive short, rfl⟩
  | logLevel =>
    obtain ⟨level, member, rfl⟩ := admits
    have capital := (by decide : ∀ level ∈ levelNames, upper level = level) level member
    exact ⟨level, ⟨member, level, rfl, capital⟩, rfl⟩
  | _ =>
    obtain ⟨text, _, rfl⟩ := admits
    rfl

/-- There are no blanks around the text of a value. -/
theorem Field.Admits.trim (admits : field.Admits value) : value.spelled.trim = value.spelled := by
  have number : ∀ seconds : Int, (Value.int seconds).spelled.trim = (Value.int seconds).spelled :=
    fun seconds => (LooseText.trim_ofString _).trans (congrArg _ (trim_intText seconds))
  cases field with
  | requestTimeout =>
    obtain ⟨seconds, _, _, rfl⟩ := admits
    exact number seconds
  | downloadTimeout =>
    obtain rfl | ⟨seconds, _, _, rfl⟩ := admits
    · decide
    · exact number seconds
  | logLevel =>
    obtain ⟨level, member, rfl⟩ := admits
    exact (by decide : ∀ level ∈ levelNames,
      (LooseText.ofString level).trim = LooseText.ofString level) level member
  | _ =>
    obtain ⟨text, trimmed, rfl⟩ := admits
    exact trimmed

/-- The assignment of a value of a field assigns it. -/
theorem Field.Admits.isAssignment (admits : field.Admits value) :
    IsAssignment (field.assignment value) field value := by
  refine ⟨_, _, rfl, ?_, ?_, ?_⟩
  · cases field <;> decide
  · cases field <;> decide
  · exact admits.trim.symm ▸ admits.reads

/-- **Assignments are parsed exactly**: they give their field and value, exactly the other texts are
refused with a fault, and the text of each value of a field gives the value back. -/
theorem parseAssignment_exact :
    (∀ text field value,
        parseAssignment text = .ok (field, value) ↔ IsAssignment text field value)
      ∧ (∀ text, (∃ fault, parseAssignment text = .error fault)
          ↔ ¬ ∃ field value, IsAssignment text field value)
      ∧ ∀ (field : Field) (value : Value), field.Admits value →
          parseAssignment (field.assignment value) = .ok (field, value) := by
  refine ⟨fun _ _ _ => parseAssignment_eq_ok_iff_isAssignment, ?_, ?_⟩
  · intro text
    simp only [← parseAssignment_eq_ok_iff_isAssignment]
    cases parseAssignment text with
    | error fault => exact iff_of_true ⟨fault, rfl⟩ nofun
    | ok pair => exact iff_of_false nofun fun other => other ⟨pair.1, pair.2, rfl⟩
  · intro field value admits
    exact parseAssignment_eq_ok_iff_isAssignment.mpr admits.isAssignment

/-- Digits of any script make a number of seconds. -/
example : parseAssignment (LooseText.ofString " request_timeout = ٣٠ ")
    = .ok (.requestTimeout, .int 30) := by rfl

end Assignments

end AssetFetch
