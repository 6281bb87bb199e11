/-
**A written number or word is read back.**

* `digitsValue_toDigits`: the digits of a number have its value;
* `EndsNumber`: what may follow a number without becoming part of it;
* `EndsNumber.readNumber_intText`: **a whole number is read as it was written**, if it has few
  enough digits;
* `EndsNumber.readScalar_intText`: the same among all values, of which some begin with a word.
-/

import AssetFetch.Json.Reader

namespace AssetFetch.Json

open AssetFetch.Text

/-! ### Digits -/

section Digits

theorem isPlainDigit_of_mem_toDigits {value : Nat} {digit : Char}
    (member : digit ∈ Nat.toDigits 10 value) : isPlainDigit digit = true :=
  Nat.isDigit_of_mem_toDigits (by decide) (by decide) member

/-- **The digits of a number have its value.** -/
theorem digitsValue_toDigits (value : Nat) : digitsValue (Nat.toDigits 10 value) = value := by
  have step : (fun value (digit : Char) => value * 10 + (digit.toNat - 0x30))
      = fun value digit => 10 * value + (digit.toNat - '0'.toNat) := by
    funext value digit
    rw [Nat.mul_comm]
    rfl
  rw [digitsValue, foldDigits, List.foldl_map, step, ← Nat.ofDigitChars_eq_foldl,
    Nat.ofDigitChars_ten_toDigits]

/-- The digits of a number start with a digit. -/
theorem exists_toDigits (value : Nat) :
    ∃ first others, Nat.toDigits 10 value = first :: others ∧ isPlainDigit first = true := by
  cases digits : Nat.toDigits 10 value with
  | nil => exact absurd digits Nat.toDigits_ne_nil
  | cons first others =>
    have member : first ∈ Nat.toDigits 10 value := by
      rw [digits]
      exact List.mem_cons_self
    exact ⟨first, others, rfl, isPlainDigit_of_mem_toDigits member⟩

/-- Only zero starts with a zero. -/
theorem toDigits_head_ne {value : Nat} (positive : 0 < value) {rest : List Char} :
    Nat.toDigits 10 value ≠ '0' :: rest := by
  induction value using Nat.strongRecOn generalizing rest with
  | ind value ih =>
    intro digits
    by_cases small : value < 10
    · rw [Nat.toDigits_of_lt_base small] at digits
      have zero := Nat.digitChar_eq_zero.mp (List.cons.inj digits).1
      omega
    · have upper : 0 < value / 10 := by omega
      rw [Nat.toDigits_of_base_le (by decide) (by omega)] at digits
      obtain ⟨first, others, front, _⟩ := exists_toDigits (value / 10)
      rw [front, List.cons_append] at digits
      have zero := (List.cons.inj digits).1
      exact ih (value / 10) (by omega) upper (zero ▸ front)

/-- A power of ten has one digit more than it has zeros. -/
theorem digitCount_ten_pow (zeros : Nat) : digitCount (.ofNat (Nat.pow 10 zeros)) = zeros + 1 := by
  show (Nat.toDigits 10 (Nat.pow 10 zeros)).length = zeros + 1
  induction zeros with
  | zero => rfl
  | succ zeros ih =>
    have positive : 0 < Nat.pow 10 zeros := Nat.pow_pos (by decide)
    have next : Nat.pow 10 (zeros + 1) = Nat.pow 10 zeros * 10 := rfl
    rw [next, Nat.toDigits_of_base_le (by decide) (by omega), Nat.mul_div_cancel _ (by decide),
      List.length_append, ih]
    rfl

end Digits

/-! ### Whole numbers -/

section Numbers

variable {rest : List Char}

/-- No digit comes next. -/
def StopsDigits (rest : List Char) : Prop :=
  ∀ next ∈ rest.head?, isPlainDigit next = false

theorem StopsDigits.cons {next : Char} (stops : isPlainDigit next = false) :
    StopsDigits (next :: rest) := by
  rintro other ⟨⟩
  exact stops

/-- Digits are taken as far as they go. -/
theorem StopsDigits.takeWhile_append (stops : StopsDigits rest) {digits : List Char}
    (plain : ∀ digit ∈ digits, isPlainDigit digit = true) :
    (digits ++ rest).takeWhile isPlainDigit = digits
      ∧ (digits ++ rest).dropWhile isPlainDigit = rest := by
  rw [List.takeWhile_append_of_pos plain, List.dropWhile_append_of_pos plain]
  cases rest with
  | nil => exact ⟨List.append_nil _, rfl⟩
  | cons next behind =>
    have apart : isPlainDigit next = false := stops next rfl
    rw [List.takeWhile_cons_of_neg (by simp [apart]), List.dropWhile_cons_of_neg (by simp [apart])]
    exact ⟨List.append_nil _, rfl⟩

/-- What may follow a number without becoming part of it. -/
def EndsNumber (rest : List Char) : Prop :=
  ∀ next ∈ rest.head?, isPlainDigit next = false ∧ next ≠ '.' ∧ next ≠ 'e' ∧ next ≠ 'E'

theorem EndsNumber.nil : EndsNumber [] := nofun

theorem EndsNumber.cons {next : Char} (ends : isPlainDigit next = false ∧ next ≠ '.' ∧ next ≠ 'e'
    ∧ next ≠ 'E') : EndsNumber (next :: rest) := by
  rintro other ⟨⟩
  exact ends

theorem EndsNumber.stopsDigits (ends : EndsNumber rest) : StopsDigits rest :=
  fun next here => (ends next here).1

/-- The whole part of a number is all its digits. -/
theorem EndsNumber.wholePart?_toDigits (ends : EndsNumber rest) (value : Nat) :
    wholePart? (Nat.toDigits 10 value ++ rest) = some (Nat.toDigits 10 value, rest) := by
  by_cases positive : 0 < value
  · have plain : ∀ digit ∈ Nat.toDigits 10 value, isPlainDigit digit = true :=
      fun _ => isPlainDigit_of_mem_toDigits
    obtain ⟨taken, dropped⟩ := ends.stopsDigits.takeWhile_append plain
    have some_digits : (Nat.toDigits 10 value).isEmpty = false := by simp
    unfold wholePart?
    split
    · rename_i other same
      obtain ⟨first, others, digits, _⟩ := exists_toDigits value
      rw [digits, List.cons_append] at same
      exact absurd ((List.cons.inj same).1 ▸ digits) (toDigits_head_ne positive)
    · simp only [taken, dropped, some_digits, Bool.false_eq_true, if_false]
  · have zero : value = 0 := by omega
    rw [zero, Nat.toDigits_zero]
    rfl

theorem EndsNumber.fractionPart_eq (ends : EndsNumber rest) : fractionPart rest = ([], rest) := by
  unfold fractionPart
  split
  · exact absurd rfl (ends '.' rfl).2.1
  · rfl

theorem EndsNumber.exponentPart_eq (ends : EndsNumber rest) :
    exponentPart rest = (none, rest) := by
  unfold exponentPart
  split
  · rename_i mark behind
    obtain ⟨_, _, small, large⟩ := ends mark rfl
    have plain : (mark == 'e' || mark == 'E') = false := by
      rw [beq_eq_false_iff_ne.mpr small, beq_eq_false_iff_ne.mpr large]
      rfl
    rw [plain]
    rfl
  · rfl

theorem intText_toList (value : Int) :
    (intText value).toList
      = if value < 0 then '-' :: Nat.toDigits 10 value.natAbs
        else Nat.toDigits 10 value.natAbs := by
  unfold intText natText
  split <;> simp

/-- The text of a number starts with a sign or a digit. -/
theorem exists_intText (value : Int) :
    ∃ first others, (intText value).toList = first :: others
      ∧ (first = '-' ∨ isPlainDigit first = true) := by
  obtain ⟨first, others, digits, plain⟩ := exists_toDigits value.natAbs
  rw [intText_toList]
  split
  · exact ⟨'-', _, rfl, .inl rfl⟩
  · exact ⟨first, others, digits, .inr plain⟩

/-- Digits do not start with a sign. -/
theorem toDigits_head?_ne (value : Nat) (rest : List Char) :
    (Nat.toDigits 10 value ++ rest).head? ≠ some '-' := by
  obtain ⟨first, others, digits, plain⟩ := exists_toDigits value
  rw [digits]
  rintro ⟨⟩
  exact absurd plain (by decide)

/-- The parts of a whole number. -/
theorem EndsNumber.numberParts?_intText (ends : EndsNumber rest) (value : Int) :
    numberParts? ((intText value).toList ++ rest)
      = some (⟨decide (value < 0), Nat.toDigits 10 value.natAbs, [], none⟩, rest) := by
  have whole := ends.wholePart?_toDigits value.natAbs
  rw [intText_toList]
  unfold numberParts?
  by_cases negative : value < 0
  · simp only [List.cons_append, List.head?_cons, BEq.rfl, if_true, List.tail_cons,
      whole, ends.fractionPart_eq, ends.exponentPart_eq, negative, decide_true]
  · have unsigned : ((Nat.toDigits 10 value.natAbs ++ rest).head? == some '-') = false :=
      beq_eq_false_iff_ne.mpr (toDigits_head?_ne _ rest)
    simp only [unsigned, Bool.false_eq_true, if_false, whole, ends.fractionPart_eq,
      ends.exponentPart_eq, negative, decide_false]

/-- **A whole number is read as it was written**, if it has few enough digits. -/
theorem EndsNumber.readNumber_intText (ends : EndsNumber rest) {limit : Option Nat} {value : Int}
    (short : ∀ digits ∈ limit, digitCount value ≤ digits) :
    readNumber limit ((intText value).toList ++ rest) = .ok (.int value, rest) := by
  have within : limit.any (· < (Nat.toDigits 10 value.natAbs).length) = false := by
    cases limit with
    | none => rfl
    | some digits =>
      have bound : (Nat.toDigits 10 value.natAbs).length ≤ digits := short digits rfl
      simp only [Option.any_some, decide_eq_false_iff_not]
      omega
  have size : (if decide (value < 0) then -(value.natAbs : Int) else value.natAbs) = value := by
    by_cases negative : value < 0
    · rw [if_pos (by simpa using negative)]
      omega
    · rw [if_neg (by simpa using negative)]
      omega
  rw [readNumber, ends.numberParts?_intText]
  simp only [NumberParts.value, List.isEmpty_nil, Option.isNone_none, Bool.and_true, if_true,
    within, Bool.false_eq_true, if_false, digitsValue_toDigits, size]
  rfl

/-- A whole number with too many digits is not read. -/
theorem EndsNumber.readNumber_intText_of_long (ends : EndsNumber rest) {digits : Nat} {value : Int}
    (long : digits < digitCount value) :
    readNumber (some digits) ((intText value).toList ++ rest)
      = .error (.tooLong (digitCount value)) := by
  have beyond : (some digits).any (· < (Nat.toDigits 10 value.natAbs).length) = true := by
    simpa [digitCount] using long
  rw [readNumber, ends.numberParts?_intText]
  simp only [NumberParts.value, List.isEmpty_nil, Option.isNone_none, Bool.and_true, if_true,
    beyond, digitCount]
  rfl

end Numbers

/-! ### Words and numbers -/

section Scalars

variable {rest : List Char} {limit : Option Nat}

/-- A word is read. -/
theorem readScalar_word {word : String × Value} (member : word ∈ words) (limit : Option Nat)
    (rest : List Char) : readScalar limit (word.1.toList ++ rest) = .ok (word.2, rest) := by
  simp only [words, List.mem_cons, List.not_mem_nil, or_false] at member
  rcases member with rfl | rfl | rfl | rfl | rfl | rfl <;> rfl

/-- A number does not begin with a word. -/
theorem afterWord?_intText (value : Int) {word : String × Value} (member : word ∈ words)
    (rest : List Char) : afterWord? word.1.toList ((intText value).toList ++ rest) = none := by
  have apart : ∀ digit : Char, isPlainDigit digit = true →
      digit ≠ 'n' ∧ digit ≠ 't' ∧ digit ≠ 'f' ∧ digit ≠ 'N' ∧ digit ≠ 'I' ∧ digit ≠ '-' := by
    intro digit plain
    refine ⟨?_, ?_, ?_, ?_, ?_, ?_⟩ <;> (rintro rfl; exact absurd plain (by decide))
  obtain ⟨first, others, digits, plain⟩ := exists_toDigits value.natAbs
  obtain ⟨n, t, f, capital, i, sign⟩ := apart first plain
  rw [intText_toList, digits]
  simp only [words, List.mem_cons, List.not_mem_nil, or_false] at member
  rcases member with rfl | rfl | rfl | rfl | rfl | rfl <;>
    (split <;> simp [afterWord?, List.isPrefixOf, *, Ne.symm])

/-- Among all values, the text of a whole number is that of a number. -/
theorem readScalar_intText_eq (value : Int) (rest : List Char) :
    readScalar limit ((intText value).toList ++ rest)
      = readNumber limit ((intText value).toList ++ rest) := by
  have none : (words.findSome? fun word =>
      (afterWord? word.1.toList ((intText value).toList ++ rest)).map fun rest => (word.2, rest))
        = none := by
    refine List.findSome?_eq_none_iff.mpr fun word member => ?_
    rw [afterWord?_intText value member rest]
    rfl
  rw [readScalar, none]

/-- **A number among all values**: it is read as it was written. -/
theorem EndsNumber.readScalar_intText (ends : EndsNumber rest) {value : Int}
    (short : ∀ digits ∈ limit, digitCount value ≤ digits) :
    readScalar limit ((intText value).toList ++ rest) = .ok (.int value, rest) := by
  rw [readScalar_intText_eq]
  exact ends.readNumber_intText short

end Scalars

end AssetFetch.Json
