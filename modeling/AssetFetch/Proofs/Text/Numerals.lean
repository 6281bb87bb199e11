/-
**Numbers in decimal digits of any script.**

* `Denotes`: a sequence of decimal digits, and the number that it denotes in base ten;
* `foldDigits_eq_ofDigits`: digits are worth what they are in positional notation;
* `decimalNumber_eq_ok_iff`: **a text is read as the number that it denotes**, as long as it has few
  enough digits, and nothing else is read as a number.
-/

import AssetFetch.Text.Numeral
import Mathlib.Data.List.Induction
import Mathlib.Data.List.TakeWhile
import Mathlib.Data.Nat.Digits.Defs

namespace AssetFetch.Text

variable {characters : List Char} {number : Nat}

/-- The characters are decimal digits, at least one, and denote a number, the highest digit first.
-/
def Denotes (characters : List Char) (number : Nat) : Prop :=
  characters ≠ [] ∧ ∃ digits : List Nat, characters.map digitValue? = digits.map some
    ∧ number = Nat.ofDigits 10 digits.reverse

/-- **Digits are worth what they are in positional notation.** -/
theorem foldDigits_eq_ofDigits (base : Nat) (digits : List Nat) :
    foldDigits base digits = Nat.ofDigits base digits.reverse := by
  induction digits using List.reverseRecOn with
  | nil => rfl
  | append_singleton front last ih =>
    have value : foldDigits base (front ++ [last]) = foldDigits base front * base + last := by
      simp [foldDigits]
    rw [value, ih, List.reverse_append, List.reverse_singleton, List.singleton_append,
      Nat.ofDigits_cons, Nat.mul_comm, Nat.add_comm]

/-- The values of digits, one by one. -/
theorem map_digitValue?_eq_iff {digits : List Nat} :
    characters.map digitValue? = digits.map some
      ↔ (∀ character ∈ characters, isDecimalDigit character = true)
        ∧ characters.filterMap digitValue? = digits := by
  induction characters generalizing digits with
  | nil => cases digits <;> simp
  | cons first rest ih =>
    cases value : digitValue? first with
    | none => cases digits <;> simp [isDecimalDigit, value]
    | some digit =>
      cases digits with
      | nil => simp [value]
      | cons head tail =>
        simp only [List.map_cons, value, List.cons.injEq, Option.some.injEq, ih,
          List.forall_mem_cons, isDecimalDigit, Option.isSome_some, true_and,
          List.filterMap_cons_some value]
        tauto

theorem Denotes.digits (denotes : Denotes characters number) :
    ∀ character ∈ characters, isDecimalDigit character = true := by
  obtain ⟨_, digits, values, _⟩ := denotes
  exact (map_digitValue?_eq_iff.mp values).1

theorem isDigit_of_isDecimalDigit {character : Char} (decimal : isDecimalDigit character = true) :
    isDigit character = true := by
  rw [isDigit, decimal, Bool.true_or]

/-- The number that digits denote. -/
theorem denotes_iff :
    Denotes characters number
      ↔ characters ≠ [] ∧ (∀ character ∈ characters, isDecimalDigit character = true)
        ∧ number = foldDigits 10 (characters.filterMap digitValue?) := by
  simp only [Denotes, map_digitValue?_eq_iff, foldDigits_eq_ofDigits, and_assoc,
    exists_and_left, exists_eq_left']

/-- **A text is read as the number that it denotes**, as long as it has few enough digits. -/
theorem decimalNumber_eq_ok_iff {text : String} :
    decimalNumber text = .ok number
      ↔ Denotes text.toList number ∧ text.toList.length ≤ digitLimit := by
  have shorter : (text.toList.takeWhile isDecimalDigit).length ≤ text.toList.length :=
    (List.takeWhile_prefix _).length_le
  have whole : (text.toList.takeWhile isDecimalDigit).length = text.toList.length
      ↔ ∀ character ∈ text.toList, isDecimalDigit character = true := by
    rw [← List.takeWhile_eq_self_iff]
    exact ⟨fun same => (List.takeWhile_prefix _).eq_of_length same, fun same => by rw [same]⟩
  rw [denotes_iff, ← whole]
  unfold decimalNumber
  simp only [← String.length_toList]
  by_cases many : (text.toList.takeWhile isDecimalDigit).length > digitLimit
  · rw [if_pos many]
    refine iff_of_false nofun fun read => ?_
    omega
  · rw [if_neg many]
    by_cases all : (text.toList.takeWhile isDecimalDigit).length = text.toList.length
    · by_cases empty : text.toList = []
      · have none : text.isEmpty = true := by simpa using empty
        simp [none, empty]
      · have some : text.isEmpty = false := by simpa using empty
        simp only [some, all, Nat.lt_irrefl, decide_false, Bool.or_false, Bool.false_eq_true,
          if_false, Except.ok.injEq, ne_eq, empty, not_false_eq_true, true_and]
        exact ⟨fun same => ⟨same.symm, by omega⟩, fun read => read.1.symm⟩
    · have less : decide ((text.toList.takeWhile isDecimalDigit).length < text.toList.length)
          = true := decide_eq_true (by omega)
      simp [less, all]

end AssetFetch.Text
