/-
**What a line chooses, and how the question for a choice ends.**

The question is asked again until a line has the number of an option or input ends. Digits of every
script make a number; but there are digits outside every positional notation, and numbers that are
too long to be read.

* `Console.Chooses`, `Console.Misleads`: lines that choose an option, and lines of digits that
  cannot be read; `exists_choiceOf`: **a line that does not mislead chooses as it should**;
* `readChoice_append_of_vain`: lines that choose nothing are passed over, one reminder for each;
* `Console.Answers`: what is promised of the question, and `choice_asked_iff`: **the promise is kept
  exactly if no line misleads before one chooses**.
-/

import AssetFetch.Console
import AssetFetch.Proofs.Text.Numerals
import Mathlib.Data.List.Basic

namespace AssetFetch.Console

open AssetFetch.Text

/-! ### Lines -/

section Lines

variable {line : String} {choice : Choice} {number : Nat}

/-- A line chooses an option: blanks around it aside, it is a numeral for the option's number. -/
def Chooses (line : String) (choice : Choice) : Prop :=
  ∃ place, Choice.all[place]? = some choice ∧ Denotes (trimChars line.toList) (place + 1)

/-- A line misleads: blanks around it aside, it consists of digits, but some of them belong to no
positional notation, or they are too many. -/
def Misleads (line : String) : Prop :=
  trimChars line.toList ≠ []
    ∧ (∀ character ∈ trimChars line.toList, isDigit character = true)
    ∧ ((∃ character ∈ trimChars line.toList, isDecimalDigit character = false)
      ∨ digitLimit < (trimChars line.toList).length)

instance (line : String) : Decidable (Misleads line) :=
  decidable_of_iff
    ((trimChars line.toList).isEmpty = false ∧ (trimChars line.toList).all isDigit = true
      ∧ ((trimChars line.toList).all isDecimalDigit = false
        ∨ digitLimit < (trimChars line.toList).length))
    (by simp [Misleads])

/-- The option of a number. -/
def optionOf : Nat → Option Choice
  | 0 => none
  | place + 1 => Choice.all[place]?

/-- What a line of something else than digits chooses. -/
theorem choiceOf_of_other (other : ¬ (trimChars line.toList ≠ []
    ∧ ∀ character ∈ trimChars line.toList, isDigit character = true)) :
    choiceOf line = .ok none := by
  have characters : (trim line).toList = trimChars line.toList := String.toList_ofList
  have refused : ((trim line).isEmpty || !(trim line).toList.all isDigit) = true := by
    by_contra passed
    refine other ?_
    rw [characters] at passed
    simpa [← String.toList_eq_nil_iff, characters] using passed
  unfold choiceOf
  rw [if_pos refused]

/-- What a line of digits chooses: the option of the number that they are read as. -/
theorem choiceOf_of_digits (filled : trimChars line.toList ≠ [])
    (digits : ∀ character ∈ trimChars line.toList, isDigit character = true) :
    choiceOf line
      = ((decimalNumber (trim line)).mapError Failure.numeral).map optionOf := by
  have characters : (trim line).toList = trimChars line.toList := String.toList_ofList
  have passed : ¬ ((trim line).isEmpty || !(trim line).toList.all isDigit) = true := by
    rw [characters]
    simpa [← String.toList_eq_nil_iff, characters] using And.intro filled digits
  unfold choiceOf
  rw [if_neg passed]
  cases decimalNumber (trim line) with
  | error fault => rfl
  | ok number => cases number <;> rfl

/-- **A line that misleads fails.** -/
theorem choiceOf_of_misleads (misleads : Misleads line) :
    ∃ fault, choiceOf line = .error (.numeral fault) := by
  obtain ⟨filled, digits, unreadable⟩ := misleads
  have characters : (trim line).toList = trimChars line.toList := String.toList_ofList
  rw [choiceOf_of_digits filled digits]
  cases read : decimalNumber (trim line) with
  | error fault => exact ⟨fault, rfl⟩
  | ok number =>
    obtain ⟨denotes, short⟩ := decimalNumber_eq_ok_iff.mp read
    rw [characters] at denotes short
    rcases unreadable with ⟨character, inside, other⟩ | long
    · rw [denotes.digits character inside] at other
      cases other
    · omega

/-- The option of the number that a line denotes is the one that the line chooses. -/
theorem mem_optionOf_iff (denotes : Denotes (trimChars line.toList) number) :
    choice ∈ optionOf number ↔ Chooses line choice := by
  have unique : ∀ other, Denotes (trimChars line.toList) other → other = number :=
    fun other also => (denotes_iff.mp also).2.2.trans (denotes_iff.mp denotes).2.2.symm
  constructor
  · intro there
    cases number with
    | zero => cases there
    | succ place => exact ⟨place, there, denotes⟩
  · rintro ⟨place, there, also⟩
    rw [← unique _ also]
    exact there

/-- **A line that does not mislead chooses as it should.** -/
theorem exists_choiceOf (clear : ¬ Misleads line) :
    ∃ chosen, choiceOf line = .ok chosen ∧ ∀ choice, choice ∈ chosen ↔ Chooses line choice := by
  have characters : (trim line).toList = trimChars line.toList := String.toList_ofList
  by_cases digits : trimChars line.toList ≠ [] ∧ ∀ character ∈ trimChars line.toList,
      isDigit character = true
  · have decimal : ∀ character ∈ trimChars line.toList, isDecimalDigit character = true := by
      intro character inside
      by_contra other
      exact clear ⟨digits.1, digits.2, .inl ⟨character, inside, by simpa using other⟩⟩
    have short : (trimChars line.toList).length ≤ digitLimit := by
      by_contra long
      exact clear ⟨digits.1, digits.2, .inr (by omega)⟩
    have denotes := denotes_iff.mpr ⟨digits.1, decimal, rfl⟩
    have read := decimalNumber_eq_ok_iff.mpr
      (by rw [characters]; exact ⟨denotes, short⟩ : Denotes (trim line).toList _ ∧ _)
    refine ⟨optionOf _, ?_, fun choice => mem_optionOf_iff denotes⟩
    rw [choiceOf_of_digits digits.1 digits.2, read]
    rfl
  · refine ⟨none, choiceOf_of_other digits, fun choice => iff_of_false nofun ?_⟩
    rintro ⟨place, _, denotes⟩
    exact digits ⟨denotes.1, fun character inside =>
      isDigit_of_isDecimalDigit (denotes.digits character inside)⟩

theorem choiceOf_of_chooses (clear : ¬ Misleads line) (chooses : Chooses line choice) :
    choiceOf line = .ok (some choice) := by
  obtain ⟨chosen, read, means⟩ := exists_choiceOf clear
  rw [read, Option.mem_def.mp ((means choice).mpr chooses)]

theorem choiceOf_of_vain (clear : ¬ Misleads line) (vain : ∀ choice, ¬ Chooses line choice) :
    choiceOf line = .ok none := by
  obtain ⟨chosen, read, means⟩ := exists_choiceOf clear
  cases chosen with
  | none => exact read
  | some choice => exact absurd ((means choice).mp rfl) (vain choice)

end Lines

/-! ### The question -/

section Question

variable {before lines : List String} {line : String} {choice : Choice}

/-- What is written by the time the question has been asked again a number of times: the message,
the menu, and a reminder for each line that has chosen nothing. -/
def told (message : String) (reminders : Nat) : String :=
  message ++ "\n" ++ menu
    ++ (String.join (List.replicate reminders (choicePrompt ++ choiceReminder)) ++ choicePrompt)

/-- **Lines that choose nothing are passed over**, with one reminder for each. -/
theorem readChoice_append_of_vain (rest : List Line)
    (clear : ∀ earlier ∈ before, ¬ Misleads earlier)
    (vain : ∀ earlier ∈ before, ∀ choice, ¬ Chooses earlier choice) :
    readChoice (before.map .text ++ rest)
      = { readChoice rest with
          text := String.join (List.replicate before.length (choicePrompt ++ choiceReminder))
            ++ (readChoice rest).text
          prompts := List.replicate before.length "" ++ (readChoice rest).prompts } := by
  induction before with
  | nil => simp
  | cons first others ih =>
    rw [List.forall_mem_cons] at clear vain
    rw [List.map_cons, List.cons_append, readChoice, choiceOf_of_vain clear.1 vain.1,
      ih clear.2 vain.2]
    simp only [after, List.length_cons, List.replicate_succ, String.join_cons, List.cons_append,
      String.append_assoc]

/-- A line that misleads is the end, unless another has chosen before it. -/
theorem exists_answer_of_misleads (rest : List Line)
    (vain : ∀ earlier ∈ before, ∀ choice, ¬ Chooses earlier choice) (misleads : Misleads line) :
    ∃ failure, (readChoice (before.map .text ++ .text line :: rest)).answer = .error failure := by
  induction before with
  | nil =>
    obtain ⟨fault, read⟩ := choiceOf_of_misleads misleads
    exact ⟨_, by rw [List.map_nil, List.nil_append, readChoice, read]⟩
  | cons first others ih =>
    rw [List.forall_mem_cons] at vain
    rw [List.map_cons, List.cons_append, readChoice]
    by_cases also : Misleads first
    · obtain ⟨fault, read⟩ := choiceOf_of_misleads also
      exact ⟨_, by rw [read]⟩
    · rw [choiceOf_of_vain also vain.1]
      exact ih vain.2

/-- Lines either have a first one that chooses an option, or none of them chooses any. -/
theorem exists_first_or_vain (lines : List String) :
    (∃ before line after choice, lines = before ++ line :: after
      ∧ (∀ earlier ∈ before, ∀ other, ¬ Chooses earlier other) ∧ Chooses line choice)
    ∨ ∀ line ∈ lines, ∀ choice, ¬ Chooses line choice := by
  classical
  cases first : lines.find? fun line => ∃ choice, Chooses line choice with
  | none =>
    refine .inr fun line inside choice chooses => ?_
    exact List.find?_eq_none.mp first line inside (decide_eq_true ⟨choice, chooses⟩)
  | some line =>
    obtain ⟨chooses, before, after, split, vain⟩ := List.find?_eq_some_iff_append.mp first
    obtain ⟨choice, chooses⟩ := of_decide_eq_true chooses
    refine .inl ⟨before, line, after, choice, split, fun earlier inside other also => ?_, chooses⟩
    simpa [show ∃ choice, Chooses earlier choice from ⟨other, also⟩] using vain earlier inside

/-- Input ends: it is used up, or says that it has ended. -/
def EndsInput : List Line → Prop
  | [] => True
  | .finish :: _ => True
  | .failure failure :: _ => failure.isEndOfInput = true
  | .text _ :: _ => False

theorem readChoice_of_endsInput {ending : List Line} (ends : EndsInput ending) :
    readChoice ending = ⟨.ok none, choicePrompt, [""], ending.tail⟩ := by
  cases ending with
  | nil => rfl
  | cons line rest =>
    cases line with
    | text characters => exact absurd ends id
    | finish => rfl
    | failure failure =>
      have ended : failure.isEndOfInput = true := ends
      rw [readChoice, if_pos ended, List.tail_cons]

/-- What is promised of the question for a choice: the first line that chooses an option is the
answer, the end of input is no answer, and each line before that is answered by one reminder. -/
structure Answers (message : String) (lines : List String) (ending : List Line)
    (exchange : Exchange (Option Choice)) : Prop where
  chosen : ∀ before line after choice, lines = before ++ line :: after →
    (∀ earlier ∈ before, ∀ other, ¬ Chooses earlier other) → Chooses line choice →
    exchange = ⟨.ok (some choice), told message before.length,
      List.replicate (before.length + 1) "", after.map .text ++ ending⟩
  closed : (∀ line ∈ lines, ∀ choice, ¬ Chooses line choice) →
    exchange = ⟨.ok none, told message lines.length,
      List.replicate (lines.length + 1) "", ending.tail⟩

theorem Answers.exists_answer {message : String} {ending : List Line}
    {exchange : Exchange (Option Choice)} (answers : Answers message lines ending exchange) :
    ∃ chosen, exchange.answer = .ok chosen := by
  rcases exists_first_or_vain lines with ⟨before, line, after, choice, split, vain, chooses⟩ | vain
  · exact ⟨some choice, by rw [answers.chosen before line after choice split vain chooses]⟩
  · exact ⟨none, by rw [answers.closed vain]⟩

/-- **The promise is kept exactly if no line misleads before one chooses an option.** -/
theorem choice_asked_iff (message : String) (lines : List String) {ending : List Line}
    (ends : EndsInput ending) :
    Answers message lines ending (askHowToGoOn message (lines.map .text ++ ending))
      ↔ ∀ before line after, lines = before ++ line :: after →
        (∀ earlier ∈ before, ∀ choice, ¬ Chooses earlier choice) → ¬ Misleads line := by
  constructor
  · intro answers before line after split vain misleads
    obtain ⟨chosen, answer⟩ := answers.exists_answer
    obtain ⟨failure, fails⟩ :=
      exists_answer_of_misleads (after.map .text ++ ending) vain misleads
    rw [split, List.map_append, List.map_cons, List.append_assoc, List.cons_append] at answer
    cases fails.symm.trans answer
  · intro clear
    have clearBefore : ∀ before after, lines = before ++ after →
        (∀ earlier ∈ before, ∀ choice, ¬ Chooses earlier choice) →
        ∀ earlier ∈ before, ¬ Misleads earlier := by
      intro before after split vain earlier inside
      obtain ⟨front, back, rfl⟩ := List.append_of_mem inside
      refine clear front earlier (back ++ after) (by rw [split]; simp) fun other also => ?_
      exact vain other (List.mem_append_left _ also)
    constructor
    · intro before line after choice split vain chooses
      have read : readChoice (.text line :: (after.map .text ++ ending))
          = ⟨.ok (some choice), choicePrompt, [""], after.map .text ++ ending⟩ := by
        rw [readChoice, choiceOf_of_chooses (clear before line after split vain) chooses]
      rw [askHowToGoOn, split, List.map_append, List.map_cons, List.append_assoc,
        List.cons_append,
        readChoice_append_of_vain _ (clearBefore before _ split vain) vain, read,
        List.replicate_succ']
      rfl
    · intro vain
      rw [askHowToGoOn,
        readChoice_append_of_vain _ (clearBefore lines [] (by simp) vain) vain,
        readChoice_of_endsInput ends, List.replicate_succ']
      rfl

/-- After a number that belongs to no option, the second option is chosen. -/
theorem second_choice_asked :
    Answers "offline" ["9", " 2 "] [.finish]
      (askHowToGoOn "offline" [.text "9", .text " 2 ", .finish]) := by
  have clear : ∀ line ∈ ["9", " 2 "], ¬ Misleads line := by decide +kernel
  refine (choice_asked_iff "offline" ["9", " 2 "] (by trivial : EndsInput [.finish])).mpr ?_
  intro before line after split _
  exact clear line (by rw [split]; simp)

/-- A superscript is no number, and asking ends with it. -/
theorem superscript_ends_asking :
    ¬ Answers "offline" ["²", "1"] [.finish]
      (askHowToGoOn "offline" [.text "²", .text "1", .finish]) := by
  intro answers
  have misleads : Misleads "²" := by decide +kernel
  obtain ⟨chosen, answer⟩ := answers.exists_answer
  have vain : ∀ earlier ∈ ([] : List String), ∀ choice, ¬ Chooses earlier choice := nofun
  obtain ⟨failure, fails⟩ := exists_answer_of_misleads [.text "1", .finish] vain misleads
  cases fails.symm.trans answer

end Question

end AssetFetch.Console
