/-
**A floating point number is written as a number.**

The shortest decimal of a number is searched on finer and finer grids. Where none of them reads
back, the number itself is cut off on the last grid, and that grid is finer than the number.

* `Binary64.InFormat`: the numbers of the 64-bit format;
* `ten_zpow_le_two_zpow`: a power of ten below a power of two, by its exponent;
* `shortestDecimal_ne_zero`: **the shortest decimal of a number other than zero is not zero**;
* `spells_positional`, `spells_exponential`: its digits make a number in either layout;
* `exists_readScalar_floatText`: **the text of a floating point number is read as one**, whatever
  follows.
-/

import AssetFetch.Proofs.Json.Parsing
import Mathlib.Algebra.Order.Field.Power
import Mathlib.Data.List.DropRight
import Mathlib.Tactic.NormNum
import Mathlib.Tactic.Positivity

namespace AssetFetch.Decimal

open AssetFetch.Text

/-! ### Powers of ten and powers of two -/

section Powers

variable {mantissa : Nat} {exponent scale : Int}

/-- A number of the 64-bit format, or a special value. -/
def Binary64.InFormat : Binary64 → Prop
  | .finite _ mantissa exponent =>
    mantissa < 2 * leastNormal ∧ leastExponent ≤ exponent ∧ exponent ≤ greatestExponent
  | _ => True

/-- **A power of ten lies below a power of two** if its exponent is less by the factor of their
logarithms, with fourteen to spare. Of exponents as small as here it is enough that `10 ^ 28` lies
between `2 ^ 93` and `2 ^ 94`. -/
theorem ten_zpow_le_two_zpow {ten two : Int} (less : (ten + 14) * 100000 ≤ two * 30103)
    (least : -2000 ≤ two) (greatest : two ≤ 2000) : (10 : ℚ) ^ ten ≤ 2 ^ two := by
  rw [← pow_le_pow_iff_left₀ (by positivity) (by positivity) (show 28 ≠ 0 by decide),
    ← zpow_natCast, ← zpow_natCast, ← zpow_mul, ← zpow_mul]
  obtain ⟨size, rfl | rfl⟩ := ten.eq_nat_or_neg
  · calc (10 : ℚ) ^ ((size : ℤ) * (28 : ℕ)) = (10 ^ 28) ^ size := by
          rw [← pow_mul, Nat.mul_comm]
          norm_cast
      _ ≤ (2 ^ 94) ^ size := by gcongr; norm_num
      _ = 2 ^ ((94 * size : ℕ) : ℤ) := by rw [← pow_mul, zpow_natCast]
      _ ≤ 2 ^ (two * (28 : ℕ)) := zpow_le_zpow_right₀ (by norm_num) (by push_cast; omega)
  · calc (10 : ℚ) ^ (-(size : ℤ) * (28 : ℕ)) = ((10 ^ 28) ^ size)⁻¹ := by
          rw [← pow_mul, neg_mul, zpow_neg, Nat.mul_comm]
          norm_cast
      _ ≤ ((2 ^ 93) ^ size)⁻¹ := by gcongr; norm_num
      _ = 2 ^ (-(93 * size : ℕ) : ℤ) := by rw [← pow_mul, zpow_neg, zpow_natCast]
      _ ≤ 2 ^ (two * (28 : ℕ)) := zpow_le_zpow_right₀ (by norm_num) (by push_cast; omega)

theorem zpow_natAbs_of_neg {base : ℚ} {power : Int} (negative : power < 0) :
    base ^ power = (base ^ power.natAbs)⁻¹ := by
  rw [← zpow_natCast, ← zpow_neg]
  congr 1
  omega

theorem zpow_natAbs_of_not_neg {base : ℚ} {power : Int} (positive : ¬ power < 0) :
    base ^ power = base ^ power.natAbs := by
  rw [← zpow_natCast]
  congr 1
  omega

/-- A number as a quotient, which is cut off after it has been put in the unit of the grid. -/
theorem exists_quotient (mantissa : Nat) (exponent scale : Int) :
    ∃ numerator denominator : Nat, 0 < denominator
      ∧ (mantissa : ℚ) * 2 ^ exponent = numerator / denominator
      ∧ gridFloor mantissa exponent scale
        = if scale < 0 then numerator * Nat.pow 10 scale.natAbs / denominator
          else numerator / (denominator * Nat.pow 10 scale.natAbs) := by
  refine ⟨if exponent < 0 then mantissa else mantissa * Nat.pow 2 exponent.natAbs,
    if exponent < 0 then Nat.pow 2 exponent.natAbs else 1, ?_, ?_, rfl⟩
  · split
    · exact Nat.pow_pos (by decide)
    · exact Nat.one_pos
  · by_cases negative : exponent < 0
    · rw [if_pos negative, if_pos negative, zpow_natAbs_of_neg negative, Nat.pow_eq, Nat.cast_pow,
        Nat.cast_ofNat, div_eq_mul_inv]
    · rw [if_neg negative, if_neg negative, zpow_natAbs_of_not_neg negative, Nat.pow_eq,
        Nat.cast_mul, Nat.cast_pow, Nat.cast_ofNat, Nat.cast_one, div_one]

/-- **A number is not cut off to zero on a finer grid.** -/
theorem gridFloor_ne_zero (finer : (10 : ℚ) ^ scale ≤ mantissa * 2 ^ exponent) :
    gridFloor mantissa exponent scale ≠ 0 := by
  obtain ⟨numerator, denominator, positive, quotient, same⟩ :=
    exists_quotient mantissa exponent scale
  have lower : (0 : ℚ) < denominator := Nat.cast_pos.mpr positive
  rw [quotient, le_div_iff₀ lower] at finer
  rw [same, Nat.pow_eq]
  by_cases negative : scale < 0
  · rw [zpow_natAbs_of_neg negative, inv_mul_le_iff₀ (by positivity)] at finer
    have whole : denominator ≤ 10 ^ scale.natAbs * numerator := by exact_mod_cast finer
    rw [if_pos negative]
    exact (Nat.div_pos (Nat.mul_comm _ _ ▸ whole) positive).ne'
  · rw [zpow_natAbs_of_not_neg negative] at finer
    have whole : 10 ^ scale.natAbs * denominator ≤ numerator := by exact_mod_cast finer
    rw [if_neg negative]
    exact (Nat.div_pos (Nat.mul_comm _ _ ▸ whole) (by positivity)).ne'

end Powers

/-! ### The shortest decimal -/

section Shortest

variable {mantissa : Nat} {exponent scale : Int}

/-- A number lies on a grid that is finer by fourteen places than the estimate of its size. -/
theorem gridFloor_estimate_ne_zero (some_mantissa : mantissa ≠ 0)
    (small : mantissa < 2 * Binary64.leastNormal) (least : Binary64.leastExponent ≤ exponent)
    (greatest : exponent ≤ Binary64.greatestExponent)
    (below : scale + 14 ≤ ((mantissa.log2 : Int) + exponent) * 30103 / 100000) :
    gridFloor mantissa exponent scale ≠ 0 := by
  have bits : mantissa.log2 < 53 := (Nat.log2_lt some_mantissa).mpr small
  unfold Binary64.leastExponent at least
  unfold Binary64.greatestExponent at greatest
  have power : (10 : ℚ) ^ scale ≤ 2 ^ ((mantissa.log2 : Int) + exponent) :=
    ten_zpow_le_two_zpow (by omega) (by omega) (by omega)
  have size : ((2 ^ mantissa.log2 : Nat) : ℚ) ≤ mantissa :=
    Nat.cast_le.mpr (Nat.log2_self_le some_mantissa)
  refine gridFloor_ne_zero (power.trans ?_)
  rw [zpow_add₀ two_ne_zero, zpow_natCast]
  push_cast at size
  gcongr

/-- The size is found next to its estimate. -/
theorem decimalSize_le (mantissa : Nat) (exponent : Int) :
    decimalSize mantissa exponent
      ≤ ((mantissa.log2 : Int) + exponent) * 30103 / 100000 + 3 := by
  unfold decimalSize
  simp only
  split
  · rename_i step found
    have few := List.mem_range.mp (List.mem_of_find?_eq_some found)
    omega
  · exact le_rfl

theorem commonUnit_zero (scale : Int) (count : Nat) (exponent : Int) :
    (commonUnit 0 scale count exponent).1 = 0 := by
  unfold commonUnit
  simp only [Nat.zero_mul, ite_self]
  split <;> rfl

theorem commonUnit_pos {count : Nat} (positive : 0 < count) (digits : Nat) (scale exponent : Int) :
    0 < (commonUnit digits scale count exponent).2 := by
  have size : 0 < (if scale < 0 then count * Nat.pow 10 scale.natAbs else count) := by
    split
    · exact Nat.mul_pos positive (Nat.pow_pos (by decide))
    · exact positive
  by_cases negative : exponent < 0
  · simp only [commonUnit, if_pos negative]
    exact size
  · simp only [commonUnit, if_neg negative]
    exact Nat.mul_pos size (Nat.pow_pos Nat.two_pos)

/-- Zero is read back as no other number. -/
theorem readsBack_zero (some_mantissa : mantissa ≠ 0) (scale : Int) :
    readsBack mantissa exponent 0 scale = false := by
  have low : 0 < if (mantissa == Binary64.leastNormal && exponent > Binary64.leastExponent) = true
      then 4 * mantissa - 1 else 4 * mantissa - 2 := by
    split <;> omega
  have above := commonUnit_pos low 0 scale (exponent - 2)
  simp only [readsBack, commonUnit_zero]
  split
  · rw [decide_eq_false (by omega), Bool.false_and]
  · rw [decide_eq_false (by omega), Bool.false_and]

/-- A decimal that is found on a grid is not zero. -/
theorem onGrid?_ne_zero (some_mantissa : mantissa ≠ 0) {found : Nat × Int}
    (here : onGrid? mantissa exponent scale = some found) : found.1 ≠ 0 := by
  have below : readsBack mantissa exponent (gridFloor mantissa exponent scale) scale = true →
      gridFloor mantissa exponent scale ≠ 0 := by
    intro back zero
    rw [zero, readsBack_zero some_mantissa] at back
    cases back
  unfold onGrid? at here
  simp only at here
  split at here
  · rename_i back _
    cases here
    have positive := below back
    unfold nearerNeighbour
    simp only
    repeat' split
    all_goals omega
  · rename_i back _
    cases here
    exact below back
  · cases here
    exact Nat.succ_ne_zero _
  · cases here

/-- **The shortest decimal of a number other than zero is not zero.** -/
theorem shortestDecimal_ne_zero (some_mantissa : mantissa ≠ 0)
    (small : mantissa < 2 * Binary64.leastNormal) (least : Binary64.leastExponent ≤ exponent)
    (greatest : exponent ≤ Binary64.greatestExponent) :
    (shortestDecimal mantissa exponent).1 ≠ 0 := by
  unfold shortestDecimal
  simp only
  split
  · rename_i found here
    obtain ⟨count, _, onGrid⟩ := List.exists_of_findSome?_eq_some here
    exact onGrid?_ne_zero some_mantissa onGrid
  · have size := decimalSize_le mantissa exponent
    exact gridFloor_estimate_ne_zero some_mantissa small least greatest (by omega)

end Shortest

end AssetFetch.Decimal

namespace AssetFetch.Json

open AssetFetch.Text AssetFetch.Decimal

/-! ### Digits in a layout -/

section Layouts

variable {digits : List Char} {point : Int}

/-- Characters of a number without a sign, with a fraction or an exponent. -/
inductive SpellsInexact : List Char → Prop
  | parts {whole fraction exponent digits : List Char} {power : Option (Bool × List Char)} :
      SpellsWhole whole → SpellsFraction fraction digits → SpellsExponent exponent power →
      digits ≠ [] ∨ power ≠ none → SpellsInexact (whole ++ (fraction ++ exponent))

/-- Digits that do not start with a zero. -/
inductive Leading : List Char → Prop
  | digits (first : Char) (others : List Char) : isPlainDigit first = true → first ≠ '0' →
      Digits others → Leading (first :: others)

theorem Leading.plain (leading : Leading digits) : Digits digits := by
  obtain ⟨first, others, plain, _, rest⟩ := leading
  exact List.forall_mem_cons.mpr ⟨plain, rest⟩

theorem digits_replicate (count : Nat) : Digits (List.replicate count '0') := by
  intro character member
  rw [List.eq_of_mem_replicate member]
  decide

theorem Digits.append {more : List Char} (front : Digits digits) (back : Digits more) :
    Digits (digits ++ more) := by
  intro character member
  exact (List.mem_append.mp member).elim (front character) (back character)

/-- **The digits of a number other than zero**, without the zeros at their end. -/
theorem leading_significant {number : Nat} (some_number : number ≠ 0) :
    Leading (significant number) := by
  obtain ⟨first, others, digits, plain⟩ := exists_toDigits number
  have nonzero : first ≠ '0' := by
    rintro rfl
    exact toDigits_head_ne (Nat.pos_of_ne_zero some_number) digits
  have same : significant number = (first :: others).rdropWhile (· == '0') := by
    rw [← digits]
    rfl
  have front := List.rdropWhile_prefix (· == '0') (first :: others)
  rw [same]
  cases kept : (first :: others).rdropWhile (· == '0') with
  | nil =>
    have zeros := List.rdropWhile_eq_nil_iff.mp kept first List.mem_cons_self
    exact absurd (beq_iff_eq.mp zeros) nonzero
  | cons head tail =>
    rw [kept] at front
    obtain ⟨rfl, behind⟩ := List.cons_prefix_cons.mp front
    refine .digits head tail plain nonzero fun digit member => ?_
    have inside : digit ∈ Nat.toDigits 10 number := by
      rw [digits]
      exact List.mem_cons_of_mem _ (behind.subset member)
    exact isPlainDigit_of_mem_toDigits inside

/-- Digits behind a point. -/
theorem SpellsWhole.fraction {whole : List Char} (spells : SpellsWhole whole)
    (filled : digits ≠ []) (plain : Digits digits) : SpellsInexact (whole ++ '.' :: digits) := by
  have parts := SpellsInexact.parts spells (.digits digits filled plain) .none (.inl filled)
  rwa [List.append_nil] at parts

theorem Leading.whole (leading : Leading digits) : SpellsWhole digits := by
  obtain ⟨first, others, plain, nonzero, rest⟩ := leading
  exact .digits first others plain nonzero rest

theorem Leading.append {more : List Char} (leading : Leading digits) (back : Digits more) :
    Leading (digits ++ more) := by
  obtain ⟨first, others, plain, nonzero, rest⟩ := leading
  exact .digits first (others ++ more) plain nonzero (rest.append back)

theorem Leading.take (leading : Leading digits) {count : Nat} (positive : 0 < count) :
    Leading (digits.take count) := by
  obtain ⟨first, others, plain, nonzero, rest⟩ := leading
  cases count with
  | zero => exact absurd positive (Nat.lt_irrefl 0)
  | succ count =>
    exact .digits first (others.take count) plain nonzero fun digit member =>
      rest digit (List.mem_of_mem_take member)

theorem Digits.drop (plain : Digits digits) (count : Nat) : Digits (digits.drop count) :=
  fun digit member => plain digit (List.mem_of_mem_drop member)

/-- **Digits with a point among them** make a number. -/
theorem spells_positional (leading : Leading digits) (point : Int) :
    SpellsInexact (positional digits point) := by
  have filled : digits ≠ [] := by
    obtain ⟨first, others, _⟩ := leading
    exact List.cons_ne_nil _ _
  unfold positional
  by_cases small : point ≤ 0
  · rw [if_pos small]
    exact SpellsWhole.zero.fraction (by simp [filled])
      ((digits_replicate point.natAbs).append leading.plain)
  · rw [if_neg small]
    by_cases large : digits.length ≤ point.toNat
    · rw [if_pos large]
      exact (leading.append (digits_replicate _)).whole.fraction (List.cons_ne_nil _ _)
        (digits_replicate 1)
    · rw [if_neg large]
      exact (leading.take (by omega)).whole.fraction (by simpa using large)
        (leading.plain.drop _)

/-- **Digits with an exponent** make a number. -/
theorem spells_exponential (form : Layout) (leading : Leading digits) (exponent : Int) :
    SpellsInexact (exponential form digits exponent) := by
  have padding : padded form.exponentDigits exponent.natAbs ≠ []
      ∧ Digits (padded form.exponentDigits exponent.natAbs) := by
    constructor
    · simp [padded]
    · exact (digits_replicate _).append fun _ => isPlainDigit_of_mem_toDigits
  have sign : ∃ negative, SpellsSign [if exponent < 0 then '-' else '+'] negative := by
    split
    · exact ⟨true, .minus⟩
    · exact ⟨false, .plus⟩
  have fraction : ∃ behind, SpellsFraction
      (if digits.length ≤ 1 then [] else '.' :: digits.drop 1) behind := by
    by_cases single : digits.length ≤ 1
    · rw [if_pos single]
      exact ⟨[], .none⟩
    · rw [if_neg single]
      have filled : digits.drop 1 ≠ [] := fun none => single (List.drop_eq_nil_iff.mp none)
      exact ⟨digits.drop 1, .digits _ filled (leading.plain.drop 1)⟩
  obtain ⟨negative, sign⟩ := sign
  obtain ⟨behind, fraction⟩ := fraction
  have power := SpellsExponent.digits 'e' _ _ negative (.inl rfl) sign padding.1 padding.2
  have parts := SpellsInexact.parts (leading.take Nat.one_pos).whole fraction power (.inr nofun)
  unfold exponential
  simp only [List.append_assoc, List.cons_append, List.nil_append] at parts ⊢
  exact parts

end Layouts

/-! ### Floating point numbers -/

section Floats

variable {number : Binary64}

/-- **A positive number is written as one.** -/
theorem spells_positiveText (form : Layout) {mantissa : Nat} {exponent : Int}
    (some_mantissa : mantissa ≠ 0) (small : mantissa < 2 * Binary64.leastNormal)
    (least : Binary64.leastExponent ≤ exponent) (greatest : exponent ≤ Binary64.greatestExponent) :
    SpellsInexact (positiveText form mantissa exponent) := by
  have leading := leading_significant (shortestDecimal_ne_zero some_mantissa small least greatest)
  unfold positiveText
  simp only
  split
  · exact spells_positional leading _
  · exact spells_exponential form leading _

/-- What is inexact is read as a floating point number, with its sign. -/
theorem exists_readScalar {size : List Char} (spells : SpellsInexact size) (negative : Bool) :
    ∃ number, ∀ limit rest, EndsNumber rest →
      readScalar limit ((if negative then ['-'] else []) ++ (size ++ rest))
        = .ok (.float number, rest) := by
  obtain ⟨whole, fraction, exponent, inexact⟩ := spells
  rename_i wholeChars fractionChars exponentChars digits power
  have parts := SpellsNumber.parts negative whole fraction exponent
  have unwhole : (digits.isEmpty && power.isNone) = false := by
    rw [Bool.and_eq_false_iff]
    exact inexact.imp (by simp) (by simp [Option.isSome_iff_ne_none])
  obtain ⟨number, amount⟩ : ∃ number, ∀ limit, NumberParts.value limit
      ⟨negative, wholeChars, digits, power⟩ = .ok (.float number) := by
    unfold NumberParts.value
    simp only [unwhole]
    exact ⟨_, fun _ => rfl⟩
  refine ⟨number, fun limit rest ends => ?_⟩
  have none : (words.findSome? fun word => (afterWord? word.1.toList
      (((if negative then ['-'] else []) ++ (wholeChars ++ (fractionChars ++ exponentChars)))
        ++ rest)).map fun rest => (word.2, rest)) = none := by
    refine List.findSome?_eq_none_iff.mpr fun word member => ?_
    rw [afterWord?_of_spells parts member rest]
    rfl
  rw [← List.append_assoc, readScalar, none]
  simp only [readNumber, numberParts?_of_spells parts ends, amount]
  rfl

/-- The text of a finite number: its sign, and characters that make a number. -/
theorem exists_text_finite {negative : Bool} {mantissa : Nat} {exponent : Int}
    (inFormat : (Binary64.finite negative mantissa exponent).InFormat) :
    ∃ size, SpellsInexact size ∧ (floatText (.finite negative mantissa exponent)).toList
      = (if negative then ['-'] else []) ++ size := by
  obtain ⟨small, least, greatest⟩ := inFormat
  refine ⟨(if mantissa == 0 then "0.0"
    else String.ofList (positiveText layout mantissa exponent)).toList, ?_, ?_⟩
  · by_cases none : mantissa = 0
    · rw [beq_iff_eq.mpr none, if_pos rfl]
      exact SpellsWhole.zero.fraction (List.cons_ne_nil _ _) (digits_replicate 1)
    · rw [beq_eq_false_iff_ne.mpr none, if_neg Bool.false_ne_true, String.toList_ofList]
      exact spells_positiveText layout none small least greatest
  · cases negative with
    | true => simp [floatText, Decimal.text]
    | false => simp [floatText, Decimal.text]

/-- The text of a floating point number starts with a sign, a digit or a capital. -/
theorem exists_floatText (inFormat : number.InFormat) :
    ∃ first others, (floatText number).toList = first :: others
      ∧ (first ∈ ['N', 'I', '-'] ∨ isPlainDigit first = true) := by
  cases number with
  | notANumber payload => exact ⟨'N', ['a', 'N'], by simp [floatText], .inl (by decide)⟩
  | infinite negative =>
    cases negative with
    | true => exact ⟨'-', "Infinity".toList, by simp [floatText], .inl (by decide)⟩
    | false => exact ⟨'I', "nfinity".toList, by simp [floatText], .inl (by decide)⟩
  | finite negative mantissa exponent =>
    obtain ⟨size, ⟨whole, fraction, exponent, _⟩, text⟩ := exists_text_finite inFormat
    obtain ⟨first, others, rfl, plain⟩ := whole.exists_head
    rw [text]
    cases negative with
    | true => exact ⟨'-', _, rfl, .inl (by decide)⟩
    | false => exact ⟨first, _, rfl, .inr plain⟩

/-- **The text of a floating point number is read as one**, whatever follows it. -/
theorem exists_readScalar_floatText (inFormat : number.InFormat) :
    ∃ other, ∀ limit rest, EndsNumber rest →
      readScalar limit ((floatText number).toList ++ rest) = .ok (.float other, rest) := by
  have word : ∀ word other, (word, .float other) ∈ words → ∀ limit rest, EndsNumber rest →
      readScalar limit (word.toList ++ rest) = .ok (.float other, rest) :=
    fun _ _ member limit rest _ => readScalar_word member limit rest
  cases number with
  | notANumber payload => exact ⟨.notANumber 0, word "NaN" _ (by simp [words])⟩
  | infinite negative =>
    cases negative with
    | true => exact ⟨.infinite true, word "-Infinity" _ (by simp [words])⟩
    | false => exact ⟨.infinite false, word "Infinity" _ (by simp [words])⟩
  | finite negative mantissa exponent =>
    obtain ⟨size, spells, text⟩ := exists_text_finite inFormat
    obtain ⟨other, read⟩ := exists_readScalar spells negative
    refine ⟨other, fun limit rest ends => ?_⟩
    rw [text, List.append_assoc]
    exact read limit rest ends

end Floats

end AssetFetch.Json
