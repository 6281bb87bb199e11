/-
**A written string is read back.**

* `hexUnit?_hexDigits`: four digits of base sixteen are read as the unit that they were written for;
* `LooseText.joined`: a text with every pair of halves put together, as a reader does it, and
  `LooseText.IsReduced`: no two halves in a row make a pair;
* `Written`, `written_escapedChar`: the ways in which a character is written;
* `readString_escapedLoose`, `readString_halves`: one character or half, and the halves of a pair,
  written and read;
* `partner_escapedLoose`: what is written behind the first half of a pair is not put together with
  it, unless it is the second half;
* `readString_escaped`: **the reader takes a written text back as it is joined**, and leaves what
  follows it.
-/

import AssetFetch.Json.Printer
import AssetFetch.Json.Reader
import AssetFetch.Proofs.Text.Utf8
import Mathlib.Data.List.Chain

namespace AssetFetch

open AssetFetch.Text

/-! ### Texts without pairs of halves -/

/-- Whether it is a half that comes first in a pair. -/
def Text.LooseChar.isHigh : LooseChar → Bool
  | .char _ => false
  | .half offset => Json.isHighUnit (LooseChar.half offset).point

/-- Whether it is a half that comes second in a pair. -/
def Text.LooseChar.isLow : LooseChar → Bool
  | .char _ => false
  | .half offset => Json.isLowUnit (LooseChar.half offset).point

/-- No half that comes first in a pair stands before one that comes second. -/
def Text.LooseText.IsReduced (text : LooseText) : Prop :=
  text.characters.IsChain fun first second => (first.isHigh && second.isLow) = false

/-- A text without halves has no pairs of them. -/
theorem Text.LooseText.isReduced_ofString (text : String) :
    (LooseText.ofString text).IsReduced := by
  unfold IsReduced ofString
  induction text.toList with
  | nil => exact .nil
  | cons first rest ih =>
    cases rest with
    | nil => exact .singleton _
    | cons second others => exact .cons_cons rfl ih

/-- Characters and halves with each pair of halves put together. -/
def Json.joinHalves : List LooseChar → List LooseChar
  | [] => []
  | [last] => [last]
  | first :: second :: rest =>
    if first.isHigh && second.isLow then
      .char (Json.pairChar first.point second.point) :: joinHalves rest
    else first :: joinHalves (second :: rest)

/-- A text with each pair of halves put together. -/
def Text.LooseText.joined (text : LooseText) : LooseText :=
  ⟨Json.joinHalves text.characters⟩

namespace Json

/-- Where no halves make a pair, nothing is put together. -/
theorem joinHalves_of_reduced {characters : List LooseChar}
    (reduced : characters.IsChain fun first second => (first.isHigh && second.isLow) = false) :
    joinHalves characters = characters := by
  fun_induction joinHalves characters with
  | case1 => rfl
  | case2 last => rfl
  | case3 first second rest pair ih =>
    have apart := (List.isChain_cons_cons.mp reduced).1
    rw [apart] at pair
    cases pair
  | case4 first second rest apart ih =>
    rw [ih (List.isChain_cons_cons.mp reduced).2]

theorem joined_of_reduced {text : LooseText} (reduced : text.IsReduced) : text.joined = text :=
  congrArg LooseText.mk (joinHalves_of_reduced reduced)

/-! ### Escapes -/

section Escapes

theorem hexValue?_hexDigit : ∀ value < 16, hexValue? (hexDigit value) = some value := by
  decide

/-- The digits of a unit, one by one. -/
theorem hexDigits_four (unit : Nat) :
    hexDigits 4 unit
      = [hexDigit (unit / 0x1000 % 16), hexDigit (unit / 0x100 % 16), hexDigit (unit / 16 % 16),
          hexDigit (unit % 16)] := by
  simp only [hexDigits, List.nil_append, List.cons_append, Nat.div_div_eq_div_mul]

/-- **Four digits are read as the unit that they were written for.** -/
theorem hexUnit?_hexDigits {unit : Nat} (small : unit < 0x10000) :
    hexUnit? (hexDigit (unit / 0x1000 % 16)) (hexDigit (unit / 0x100 % 16))
      (hexDigit (unit / 16 % 16)) (hexDigit (unit % 16)) = some unit := by
  have digit : ∀ value, hexValue? (hexDigit (value % 16)) = some (value % 16) := fun value =>
    hexValue?_hexDigit _ (Nat.mod_lt _ (by decide))
  have sum : ((unit / 0x1000 % 16 * 16 + unit / 0x100 % 16) * 16 + unit / 16 % 16) * 16 + unit % 16
      = unit := by omega
  simp only [hexUnit?, digit]
  exact congrArg some sum

theorem unitEscape_eq (unit : Nat) :
    unitEscape unit = ['\\', 'u', hexDigit (unit / 0x1000 % 16), hexDigit (unit / 0x100 % 16),
      hexDigit (unit / 16 % 16), hexDigit (unit % 16)] := by
  rw [unitEscape, hexDigits_four]

variable {opening : List Char} {taken : List LooseChar} {unit low : Nat} {next : Char}
  {rest : List Char}

/-- A unit that no partner follows is read on its own. -/
theorem readString_unitEscape (small : unit < 0x10000)
    (alone : isHighUnit unit = true → partner next rest = .absent) :
    readString opening taken (unitEscape unit ++ next :: rest)
      = readString opening (ofUnit unit :: taken) (next :: rest) := by
  have absent : (if isHighUnit unit then partner next rest else .absent) = .absent := by
    split
    · rename_i high
      exact alone high
    · rfl
  rw [unitEscape_eq]
  simp only [List.cons_append, List.nil_append, readString.eq_3, hexUnit?_hexDigits small, absent]

/-- A unit before another escaped unit that is no second half has no partner. -/
theorem partner_unitEscape (small : low < 0x10000) (next : Char) (rest : List Char) :
    partner '\\' ((unitEscape low ++ next :: rest).tail)
      = if isLowUnit low then .present low else .absent := by
  rw [unitEscape_eq]
  simp only [List.cons_append, List.nil_append, List.tail_cons, partner, hexUnit?_hexDigits small]

/-- Two units of a pair are read as their character. -/
theorem readString_pair (first : unit < 0x10000) (second : low < 0x10000)
    (isHigh : isHighUnit unit = true) (isLow : isLowUnit low = true) :
    readString opening taken (unitEscape unit ++ (unitEscape low ++ next :: rest))
      = readString opening (.char (pairChar unit low) :: taken) (next :: rest) := by
  have present := partner_unitEscape second next rest
  rw [if_pos isLow] at present
  rw [unitEscape_eq low] at present ⊢
  rw [unitEscape_eq unit]
  simp only [List.cons_append, List.nil_append, List.tail_cons] at present ⊢
  simp only [readString.eq_3, hexUnit?_hexDigits first, isHigh, if_true, present,
    List.drop_succ_cons, List.drop_zero]

/-- A one-letter escape is read as its character. -/
theorem readString_letter {letter character : Char} (rest : List Char)
    (escapes : escapeChar? letter = some character) (other : letter ≠ 'u') :
    readString opening taken ('\\' :: letter :: rest)
      = readString opening (.char character :: taken) rest := by
  rw [readString.eq_6 _ _ _ _ (fun _ _ _ _ _ _ same _ => other same) other]
  simp only [escapes]

/-- A character that stands for itself. -/
theorem readString_plain {character : Char} (rest : List Char) (printable : 0x20 ≤ character.toNat)
    (unquoted : character ≠ '"') (unescaped : character ≠ '\\') :
    readString opening taken (character :: rest)
      = readString opening (.char character :: taken) rest := by
  rw [readString.eq_7 _ _ _ _ unquoted (fun _ _ _ _ _ _ same _ => unescaped same)
    (fun _ same _ => unescaped same) (fun same _ => unescaped same)
    (fun _ _ same _ => unescaped same)]
  exact if_neg (by omega)

theorem partner_of_ne {character : Char} (rest : List Char) (unescaped : character ≠ '\\') :
    partner character rest = .absent := by
  unfold partner
  split
  · exact absurd rfl unescaped
  · rfl

end Escapes

/-! ### Characters and halves -/

section Characters

theorem isHighUnit_toNat (character : Char) (small : character.toNat < 0x10000) :
    isHighUnit character.toNat = false := by
  have apart := point_apart character
  unfold isHighUnit
  simp only [Bool.and_eq_false_iff, decide_eq_false_iff_not]
  omega

theorem isLowUnit_toNat (character : Char) (small : character.toNat < 0x10000) :
    isLowUnit character.toNat = false := by
  have apart := point_apart character
  unfold isLowUnit
  simp only [Bool.and_eq_false_iff, decide_eq_false_iff_not]
  omega

theorem ofUnit_toNat (character : Char) : ofUnit character.toNat = .char character := by
  have apart := point_apart character
  have outside : ¬ (firstHalf ≤ character.toNat ∧ character.toNat - firstHalf < 0x800) := by
    unfold firstHalf
    omega
  rw [ofUnit, dif_neg outside, Char.ofNat_toNat]

/-- The units of a character beyond the first plane. -/
theorem pair_toNat {character : Char} (large : ¬ character.toNat < 0x10000) :
    isHighUnit (0xD800 + (character.toNat - 0x10000) / 0x400) = true
      ∧ isLowUnit (0xDC00 + (character.toNat - 0x10000) % 0x400) = true
      ∧ pairChar (0xD800 + (character.toNat - 0x10000) / 0x400)
          (0xDC00 + (character.toNat - 0x10000) % 0x400) = character := by
  have apart := point_apart character
  refine ⟨?_, ?_, ?_⟩
  · simp only [isHighUnit, Bool.and_eq_true, decide_eq_true_eq]
    omega
  · simp only [isLowUnit, Bool.and_eq_true, decide_eq_true_eq]
    omega
  · have sum : 0x10000 + (0xD800 + (character.toNat - 0x10000) / 0x400 - 0xD800) * 0x400
        + (0xDC00 + (character.toNat - 0x10000) % 0x400 - 0xDC00) = character.toNat := by omega
    rw [pairChar, sum, Char.ofNat_toNat]

/-- How a character is written. -/
inductive Written (character : Char) : List Char → Prop
  | letter (letter : Char) : escapeChar? letter = some character → letter ≠ 'u' →
      Written character ['\\', letter]
  | plain : 0x20 ≤ character.toNat → character ≠ '"' → character ≠ '\\' →
      Written character [character]
  | unit : character.toNat < 0x10000 → Written character (unitEscape character.toNat)
  | pair : ¬ character.toNat < 0x10000 →
      Written character (unitEscape (0xD800 + (character.toNat - 0x10000) / 0x400)
        ++ unitEscape (0xDC00 + (character.toNat - 0x10000) % 0x400))

theorem written_escapedChar (character : Char) : Written character (escapedChar character) := by
  unfold escapedChar
  split
  · exact .letter '"' rfl (by decide)
  · exact .letter '\\' rfl (by decide)
  · exact .letter 'n' rfl (by decide)
  · exact .letter 'r' rfl (by decide)
  · exact .letter 't' rfl (by decide)
  · exact .letter 'b' rfl (by decide)
  · exact .letter 'f' rfl (by decide)
  · rename_i unquoted unescaped _ _ _ _ _
    simp only
    split
    · rename_i printable
      simp only [Bool.and_eq_true, decide_eq_true_eq] at printable
      exact .plain printable.1 unquoted unescaped
    · split
      · rename_i small
        exact .unit small
      · rename_i large
        exact .pair large

variable {opening : List Char} {taken : List LooseChar}

/-- **A character is read as it was written.** -/
theorem readString_escapedChar (character next : Char) (rest : List Char) :
    readString opening taken (escapedChar character ++ next :: rest)
      = readString opening (.char character :: taken) (next :: rest) := by
  have written := written_escapedChar character
  generalize escapedChar character = spelled at written
  cases written with
  | letter letter escapes other => exact readString_letter _ escapes other
  | plain printable unquoted unescaped => exact readString_plain _ printable unquoted unescaped
  | unit small =>
    have alone : isHighUnit character.toNat = true → partner next rest = .absent := by
      rw [isHighUnit_toNat character small]
      exact nofun
    rw [readString_unitEscape small alone, ofUnit_toNat]
  | pair large =>
    have apart := point_apart character
    obtain ⟨high, low, same⟩ := pair_toNat large
    rw [List.append_assoc, readString_pair (by omega) (by omega) high low, same]

theorem point_half (offset : Fin 0x800) :
    (LooseChar.half offset).point = 0xD800 + offset.val ∧ offset.val < 0x800 :=
  ⟨rfl, offset.isLt⟩

theorem ofUnit_half (offset : Fin 0x800) :
    ofUnit (LooseChar.half offset).point = .half offset := by
  have point := point_half offset
  have within : firstHalf ≤ (LooseChar.half offset).point
      ∧ (LooseChar.half offset).point - firstHalf < 0x800 := by
    unfold firstHalf
    omega
  have same : (LooseChar.half offset).point - firstHalf = offset.val := by
    unfold firstHalf
    omega
  rw [ofUnit, dif_pos within]
  exact congrArg LooseChar.half (Fin.ext same)

/-- Behind the first half of a pair nothing is put together with it but the second half. -/
theorem partner_escapedLoose {second : LooseChar} (other : second.isLow = false) (next : Char)
    (rest : List Char) :
    ∃ first others, escapedLoose second ++ next :: rest = first :: others
      ∧ partner first others = .absent := by
  -- a unit that is no second half is no partner
  have unit : ∀ unit < 0x10000, isLowUnit unit = false → ∀ next rest,
      ∃ first others, unitEscape unit ++ next :: rest = first :: others
        ∧ partner first others = .absent := by
    intro unit small notLow next rest
    have absent := partner_unitEscape small next rest
    rw [notLow] at absent
    exact ⟨'\\', _, rfl, absent⟩
  cases second with
  | half offset =>
    have point := point_half offset
    exact unit _ (by omega) other next rest
  | char character =>
    have same : escapedLoose (.char character) = escapedChar character := rfl
    have written := written_escapedChar character
    rw [same]
    generalize escapedChar character = spelled at written
    cases written with
    | letter letter escapes notUnit =>
      refine ⟨'\\', letter :: next :: rest, rfl, ?_⟩
      unfold partner
      split
      · rename_i same
        exact absurd (List.cons.inj same).1 notUnit
      · rfl
    | plain printable unquoted unescaped =>
      exact ⟨character, next :: rest, rfl, partner_of_ne _ unescaped⟩
    | unit small => exact unit _ small (isLowUnit_toNat character small) next rest
    | pair large =>
      have apart := point_apart character
      have notLow : isLowUnit (0xD800 + (character.toNat - 0x10000) / 0x400) = false := by
        simp only [isLowUnit, Bool.and_eq_false_iff, decide_eq_false_iff_not]
        omega
      rw [List.append_assoc, unitEscape_eq (0xDC00 + _)]
      exact unit _ (by omega) notLow '\\' _

end Characters

/-! ### Whole strings -/

section Strings

variable {opening : List Char} {taken : List LooseChar}

/-- The half of a pair is read as it was written, unless the other half follows. -/
theorem readString_half (offset : Fin 0x800) {next : Char} {rest : List Char}
    (alone : (LooseChar.half offset).isHigh = true → partner next rest = .absent) :
    readString opening taken (escapedLoose (.half offset) ++ next :: rest)
      = readString opening (.half offset :: taken) (next :: rest) := by
  have point := point_half offset
  have small : (LooseChar.half offset).point < 0x10000 := by omega
  rw [escapedLoose, readString_unitEscape small alone, ofUnit_half]

/-- **A character or half is read as it was written**, unless the other half of a pair follows. -/
theorem readString_escapedLoose {loose : LooseChar} {next : Char} {rest : List Char}
    (alone : loose.isHigh = true → partner next rest = .absent) :
    readString opening taken (escapedLoose loose ++ next :: rest)
      = readString opening (loose :: taken) (next :: rest) := by
  cases loose with
  | char character => exact readString_escapedChar character next rest
  | half offset => exact readString_half offset alone

/-- **The halves of a pair are read as its character.** -/
theorem readString_halves {first second : LooseChar} (high : first.isHigh = true)
    (low : second.isLow = true) (next : Char) (rest : List Char) :
    readString opening taken (escapedLoose first ++ (escapedLoose second ++ next :: rest))
      = readString opening (.char (pairChar first.point second.point) :: taken)
          (next :: rest) := by
  cases first with
  | char character => cases high
  | half firstOffset =>
    cases second with
    | char character => cases low
    | half secondOffset =>
      have firstPoint := point_half firstOffset
      have secondPoint := point_half secondOffset
      exact readString_pair (by omega) (by omega) high low

/-- The closing quote is at least what follows. -/
theorem exists_cons (characters : List LooseChar) (rest : List Char) :
    ∃ next behind, characters.flatMap escapedLoose ++ '"' :: rest = next :: behind := by
  cases written : characters.flatMap escapedLoose with
  | nil => exact ⟨'"', rest, rfl⟩
  | cons first others => exact ⟨first, others ++ '"' :: rest, rfl⟩

/-- **A written string is read back as it is joined**, and what follows its closing quote is left.
-/
theorem readString_flatMap (characters : List LooseChar) (rest : List Char) :
    readString opening taken (characters.flatMap escapedLoose ++ '"' :: rest)
      = .ok (⟨taken.reverse ++ joinHalves characters⟩, rest) := by
  fun_induction joinHalves characters generalizing taken with
  | case1 => simp [readString.eq_2]
  | case2 last =>
    have alone : last.isHigh = true → partner '"' rest = .absent := fun _ =>
      partner_of_ne rest (by decide)
    rw [List.flatMap_singleton, readString_escapedLoose alone]
    simp [readString.eq_2]
  | case3 first second others pair ih =>
    obtain ⟨high, low⟩ := Bool.and_eq_true_iff.mp pair
    have later := @ih (.char (pairChar first.point second.point) :: taken)
    obtain ⟨next, behind, same⟩ := exists_cons others rest
    rw [List.flatMap_cons, List.flatMap_cons, List.append_assoc, List.append_assoc]
    rw [same] at later ⊢
    rw [readString_halves high low, later, List.reverse_cons, List.append_assoc]
    rfl
  | case4 first second others apart ih =>
    have later := @ih (first :: taken)
    obtain ⟨next, behind, same⟩ := exists_cons (second :: others) rest
    have alone : first.isHigh = true → partner next behind = .absent := by
      intro high
      rw [high, Bool.true_and, Bool.not_eq_true] at apart
      obtain ⟨third, more, tail⟩ := exists_cons others rest
      obtain ⟨head, after, spelled, absent⟩ := partner_escapedLoose apart third more
      rw [List.flatMap_cons, List.append_assoc, tail, spelled] at same
      cases same
      exact absent
    rw [List.flatMap_cons, List.append_assoc]
    rw [same] at later ⊢
    rw [readString_escapedLoose alone, later, List.reverse_cons, List.append_assoc]
    rfl

/-- **The reader takes a written text back as it is joined**, and leaves what follows its closing
quote. -/
theorem readString_escaped (text : LooseText) (opening rest : List Char) :
    readString opening [] (text.characters.flatMap escapedLoose ++ '"' :: rest)
      = .ok (text.joined, rest) :=
  readString_flatMap text.characters rest

end Strings

end Json

end AssetFetch
