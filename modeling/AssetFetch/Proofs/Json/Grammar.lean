/-
**The grammar of JSON texts.**

What a text says does not depend on who reads it: a string spells characters, a number its parts, a
list its items, and a record its members in the order in which they are written, those of one name
included.

* `SpellsText`, `SpellsNumber`: the characters between two quotes, and those of a number;
* `Spells`: the characters of a value, of the items of a list and of the members of a record, in one
  relation, since each may contain the others; `Says`: a whole text with blanks around its value;
* `readString_of_spells`, `spells_of_readString`: **a string is read exactly if it is spelled**;
* `numberParts?_of_spells`, `spells_of_numberParts?`: the same of a number, as far as it goes on.
-/

import AssetFetch.Proofs.Json.Reading
import Mathlib.Data.List.TakeWhile

namespace AssetFetch.Json

open AssetFetch.Text

/-! ### The grammar -/

section Grammar

/-- The characters do not begin with an escaped unit that comes second in a pair. -/
def NotLow (characters : List Char) : Prop :=
  ∀ first second third fourth rest low,
    characters = '\\' :: 'u' :: first :: second :: third :: fourth :: rest →
    hexUnit? first second third fourth = some low → isLowUnit low = false

/-- The characters between two quotes, and the text that they spell. Two escaped units of a pair are
one character. -/
inductive SpellsText : List Char → List LooseChar → Prop
  | nil : SpellsText [] []
  | plain (character : Char) {rest : List Char} {text : List LooseChar} :
      0x20 ≤ character.toNat → character ≠ '"' → character ≠ '\\' → SpellsText rest text →
      SpellsText (character :: rest) (.char character :: text)
  | letter (letter character : Char) {rest : List Char} {text : List LooseChar} :
      escapeChar? letter = some character → SpellsText rest text →
      SpellsText ('\\' :: letter :: rest) (.char character :: text)
  | unit (first second third fourth : Char) (unit : Nat) {rest : List Char}
      {text : List LooseChar} :
      hexUnit? first second third fourth = some unit → (isHighUnit unit = true → NotLow rest) →
      SpellsText rest text →
      SpellsText ('\\' :: 'u' :: first :: second :: third :: fourth :: rest) (ofUnit unit :: text)
  | pair (first second third fourth fifth sixth seventh eighth : Char) (high low : Nat)
      {rest : List Char} {text : List LooseChar} :
      hexUnit? first second third fourth = some high → isHighUnit high = true →
      hexUnit? fifth sixth seventh eighth = some low → isLowUnit low = true →
      SpellsText rest text →
      SpellsText ('\\' :: 'u' :: first :: second :: third :: fourth
        :: '\\' :: 'u' :: fifth :: sixth :: seventh :: eighth :: rest)
        (.char (pairChar high low) :: text)

/-- Digits, any number of them. -/
def Digits (characters : List Char) : Prop :=
  ∀ character ∈ characters, isPlainDigit character = true

/-- The whole part of a number: only zero starts with a zero. -/
inductive SpellsWhole : List Char → Prop
  | zero : SpellsWhole ['0']
  | digits (first : Char) (others : List Char) : isPlainDigit first = true → first ≠ '0' →
      Digits others → SpellsWhole (first :: others)

/-- What may follow the whole part, and the digits of the fraction. -/
inductive SpellsFraction : List Char → List Char → Prop
  | none : SpellsFraction [] []
  | digits (digits : List Char) : digits ≠ [] → Digits digits →
      SpellsFraction ('.' :: digits) digits

/-- The sign of an exponent, and whether it is negative. -/
inductive SpellsSign : List Char → Bool → Prop
  | none : SpellsSign [] false
  | plus : SpellsSign ['+'] false
  | minus : SpellsSign ['-'] true

/-- What may follow the fraction, and the sign and the digits of the exponent. -/
inductive SpellsExponent : List Char → Option (Bool × List Char) → Prop
  | none : SpellsExponent [] .none
  | digits (mark : Char) (sign digits : List Char) (negative : Bool) : mark = 'e' ∨ mark = 'E' →
      SpellsSign sign negative → digits ≠ [] → Digits digits →
      SpellsExponent (mark :: (sign ++ digits)) (some (negative, digits))

/-- The characters of a number, and its parts. -/
inductive SpellsNumber : List Char → NumberParts → Prop
  | parts (negative : Bool) {whole fraction exponent digits : List Char}
      {power : Option (Bool × List Char)} : SpellsWhole whole → SpellsFraction fraction digits →
      SpellsExponent exponent power →
      SpellsNumber ((if negative then ['-'] else []) ++ (whole ++ (fraction ++ exponent)))
        ⟨negative, whole, digits, power⟩

/-- The name of a member with its colon, and blanks around that. -/
inductive SpellsName : List Char → LooseText → Prop
  | name (between after : List Char) {inside : List Char} {text : List LooseChar} :
      SpellsText inside text → Blank between → Blank after →
      SpellsName ('"' :: (inside ++ '"' :: (between ++ ':' :: after))) ⟨text⟩

/-- What characters may spell: a value, the items of a list, or the members of a record as they are
written, those of one name included. -/
inductive Part where
  | value (value : Value)
  | items (items : List Value)
  | members (members : List (LooseText × Value))

/-- The characters of a value without blanks around it, and those of items and members with them. -/
inductive Spells : List Char → Part → Prop
  | word (word : String × Value) : word ∈ words → Spells word.1.toList (.value word.2)
  | number {characters : List Char} {parts : NumberParts} {value : Value} :
      SpellsNumber characters parts → parts.value none = .ok value →
      Spells characters (.value value)
  | text {characters : List Char} {text : List LooseChar} : SpellsText characters text →
      Spells ('"' :: (characters ++ ['"'])) (.value (.text ⟨text⟩))
  | list {characters : List Char} {items : List Value} : Spells characters (.items items) →
      Spells ('[' :: (characters ++ [']'])) (.value (.list items))
  | record {characters : List Char} {members : List (LooseText × Value)} :
      Spells characters (.members members) →
      Spells ('\x7b' :: (characters ++ ['\x7d'])) (.value (.record (setMembers [] members)))
  | noItem {blanks : List Char} : Blank blanks → Spells blanks (.items [])
  | lastItem (before after : List Char) {characters : List Char} {value : Value} : Blank before →
      Blank after → Spells characters (.value value) →
      Spells (before ++ (characters ++ after)) (.items [value])
  | item (before after : List Char) {characters others : List Char} {value next : Value}
      {values : List Value} : Blank before → Blank after → Spells characters (.value value) →
      Spells others (.items (next :: values)) →
      Spells (before ++ (characters ++ (after ++ ',' :: others)))
        (.items (value :: next :: values))
  | noMember {blanks : List Char} : Blank blanks → Spells blanks (.members [])
  | lastMember (before after : List Char) {front characters : List Char} {name : LooseText}
      {value : Value} : Blank before → Blank after → SpellsName front name →
      Spells characters (.value value) →
      Spells (before ++ (front ++ (characters ++ after))) (.members [(name, value)])
  | member (before after : List Char) {front characters others : List Char} {name : LooseText}
      {value : Value} {next : LooseText × Value} {members : List (LooseText × Value)} :
      Blank before → Blank after → SpellsName front name → Spells characters (.value value) →
      Spells others (.members (next :: members)) →
      Spells (before ++ (front ++ (characters ++ (after ++ ',' :: others))))
        (.members ((name, value) :: next :: members))

/-- A text says a value: the characters of the value, and blanks around them. -/
def Says (characters : List Char) (value : Value) : Prop :=
  ∃ before inside after, Blank before ∧ Blank after ∧ Spells inside (.value value)
    ∧ characters = before ++ (inside ++ after)

end Grammar

/-! ### Strings -/

section Strings

variable {opening characters rest behind : List Char} {taken text : List LooseChar}
  {first second third fourth next : Char} {unit low : Nat}

/-- The closing quote is at least what follows. -/
theorem exists_append_quote (front behind : List Char) :
    ∃ next rest, front ++ '"' :: behind = next :: rest := by
  cases front with
  | nil => exact ⟨'"', behind, rfl⟩
  | cons first others => exact ⟨first, others ++ '"' :: behind, rfl⟩

/-- The partner of a unit before another escaped unit. -/
theorem partner_escape (decoded : hexUnit? first second third fourth = some low)
    (front behind : List Char) :
    partner '\\' ('u' :: first :: second :: third :: fourth :: (front ++ '"' :: behind))
      = if isLowUnit low then .present low else .absent := by
  obtain ⟨next, rest, same⟩ := exists_append_quote front behind
  rw [same]
  simp only [partner, decoded]

/-- A partner is an escaped unit that comes second in a pair. -/
theorem exists_of_partner (present : partner next rest = .present low) :
    ∃ first second third fourth behind, next = '\\'
      ∧ rest = 'u' :: first :: second :: third :: fourth :: behind
      ∧ hexUnit? first second third fourth = some low ∧ isLowUnit low = true := by
  unfold partner at present
  split at present
  · split at present
    · cases present
    · rename_i decoded
      split at present
      · rename_i isLow
        cases present
        exact ⟨_, _, _, _, _, rfl, rfl, decoded, isLow⟩
      · cases present
  · cases present

/-- Behind a first half that is not put together with what follows there is no partner. -/
theorem partner_of_notLow (spells : SpellsText characters text) (notLow : NotLow characters)
    (same : characters ++ '"' :: behind = next :: rest) : partner next rest = .absent := by
  have escaped : ∀ first second third fourth inside low,
      characters = '\\' :: 'u' :: first :: second :: third :: fourth :: inside →
      hexUnit? first second third fourth = some low → partner next rest = .absent := by
    rintro first second third fourth inside low rfl decoded
    cases same
    simp only [List.append_eq, List.cons_append]
    rw [partner_escape decoded, notLow _ _ _ _ _ low rfl decoded, if_neg Bool.false_ne_true]
  cases spells with
  | nil =>
    cases same
    exact partner_of_ne _ (by decide)
  | plain character printable unquoted unescaped _ =>
    cases same
    exact partner_of_ne _ unescaped
  | letter letter character escapes _ =>
    cases same
    unfold partner
    split
    · rename_i same
      obtain ⟨rfl, _⟩ := List.cons.inj same
      cases escapes
    · rfl
  | unit first second third fourth unit decoded _ _ => exact escaped _ _ _ _ _ _ rfl decoded
  | pair first second third fourth fifth sixth seventh eighth high low decoded _ _ _ _ =>
    exact escaped _ _ _ _ _ _ rfl decoded

/-- **What is spelled between quotes is read**, and what follows the closing quote is left. -/
theorem readString_of_spells (spells : SpellsText characters text) (rest : List Char) :
    readString opening taken (characters ++ '"' :: rest) = .ok (⟨taken.reverse ++ text⟩, rest) := by
  induction spells generalizing taken with
  | nil => rw [List.nil_append, readString, List.append_nil]
  | plain character printable unquoted unescaped _ ih =>
    rw [List.cons_append, readString_plain _ printable unquoted unescaped, ih,
      List.reverse_cons, List.append_assoc, List.singleton_append]
  | letter letter character escapes _ ih =>
    have other : letter ≠ 'u' := by
      rintro rfl
      cases escapes
    rw [List.cons_append, List.cons_append, readString_letter _ escapes other, ih,
      List.reverse_cons, List.append_assoc, List.singleton_append]
  | @unit first second third fourth unit inside text decoded alone spells ih =>
    obtain ⟨next, behind, same⟩ := exists_append_quote inside rest
    have absent : (if isHighUnit unit then partner next behind else .absent) = .absent := by
      split
      · rename_i high
        exact partner_of_notLow spells (alone high) same
      · rfl
    have later := @ih (ofUnit unit :: taken)
    simp only [List.cons_append]
    rw [same] at later ⊢
    simp only [readString.eq_3, decoded, absent]
    rw [later, List.reverse_cons, List.append_assoc, List.singleton_append]
  | @pair first second third fourth fifth sixth seventh eighth high low inside text decoded isHigh
      other isLow spells ih =>
    have present := partner_escape other inside rest
    rw [if_pos isLow] at present
    have later := @ih (.char (pairChar high low) :: taken)
    simp only [List.cons_append, readString.eq_3, decoded, isHigh, if_true, present,
      List.drop_succ_cons, List.drop_zero]
    rw [later, List.reverse_cons, List.append_assoc, List.singleton_append]

/-- **What is read as a string is spelled between quotes.** -/
theorem spells_of_readString {read : LooseText}
    (found : readString opening taken characters = .ok (read, rest)) :
    ∃ front text, characters = front ++ '"' :: rest ∧ SpellsText front text
      ∧ read = ⟨taken.reverse ++ text⟩ := by
  fun_induction readString opening taken characters
  case case2 =>
    cases found
    exact ⟨[], [], rfl, .nil, by rw [List.append_nil]⟩
  case case4 first second third fourth next inside unit decoded absent ih =>
    obtain ⟨front, text, same, spells, rfl⟩ := ih found
    refine ⟨'\\' :: 'u' :: first :: second :: third :: fourth :: front, ofUnit unit :: text,
      by rw [same]; rfl, .unit first second third fourth unit decoded ?_ spells, by simp⟩
    rintro high fifth sixth seventh eighth others low rfl other
    cases same
    rw [dif_pos high] at absent
    simp only [List.append_eq, List.cons_append] at absent
    rw [partner_escape other] at absent
    by_contra isLow
    rw [if_pos (by simpa using isLow)] at absent
    cases absent
  case case6 first second third fourth next inside unit decoded low present ih =>
    obtain ⟨front, text, same, spells, rfl⟩ := ih found
    have high : isHighUnit unit = true := by
      by_contra other
      rw [dif_neg other] at present
      cases present
    rw [dif_pos high] at present
    obtain ⟨fifth, sixth, seventh, eighth, behind, rfl, rfl, other, isLow⟩ :=
      exists_of_partner present
    simp only [List.drop_succ_cons, List.drop_zero] at same
    exact ⟨_, .char (pairChar unit low) :: text, by rw [same]; rfl,
      .pair first second third fourth fifth sixth seventh eighth unit low decoded high other isLow
        spells, by simp⟩
  case case9 letter inside _ _ character escapes ih =>
    obtain ⟨front, text, rfl, spells, rfl⟩ := ih found
    exact ⟨'\\' :: letter :: front, .char character :: text, rfl, .letter letter _ escapes spells,
      by simp⟩
  case case12 character inside unquoted _ _ _ other printable ih =>
    obtain ⟨front, text, rfl, spells, rfl⟩ := ih found
    have unescaped : character ≠ '\\' := by
      intro escape
      cases front with
      | nil => exact other '"' rest escape rfl
      | cons letter others => exact other letter _ escape rfl
    exact ⟨character :: front, .char character :: text, rfl,
      .plain character (by omega) unquoted unescaped spells, by simp⟩
  all_goals cases found

end Strings

/-! ### Numbers -/

section Numbers

variable {characters rest : List Char}

theorem digits_takeWhile (characters : List Char) : Digits (characters.takeWhile isPlainDigit) :=
  fun _ => List.mem_takeWhile_imp

theorem wholePart?_of_spells (spells : SpellsWhole characters) (stops : StopsDigits rest) :
    wholePart? (characters ++ rest) = some (characters, rest) := by
  cases spells with
  | zero => rfl
  | digits first others plain apart digits =>
    obtain ⟨taken, dropped⟩ := stops.takeWhile_append (List.forall_mem_cons.mpr ⟨plain, digits⟩)
    unfold wholePart?
    split
    · rename_i same
      exact absurd (List.cons.inj same).1 apart
    · simp only [taken, dropped, List.isEmpty_cons, Bool.false_eq_true, if_false]

theorem spells_of_wholePart? {whole : List Char}
    (found : wholePart? characters = some (whole, rest)) :
    characters = whole ++ rest ∧ SpellsWhole whole := by
  unfold wholePart? at found
  split at found
  · cases found
    exact ⟨rfl, .zero⟩
  · rename_i other
    simp only at found
    split at found
    · cases found
    · rename_i filled
      cases found
      refine ⟨List.takeWhile_append_dropWhile.symm, ?_⟩
      cases characters with
      | nil => exact absurd rfl filled
      | cons first behind =>
        by_cases plain : isPlainDigit first = true
        · rw [List.takeWhile_cons_of_pos plain]
          refine .digits first _ plain ?_ (digits_takeWhile behind)
          rintro rfl
          exact other behind rfl
        · rw [List.takeWhile_cons_of_neg plain] at filled
          exact absurd rfl filled

theorem fractionPart_of_spells {digits : List Char} (spells : SpellsFraction characters digits)
    (stops : StopsDigits rest) (point : rest.head? ≠ some '.') :
    fractionPart (characters ++ rest) = (digits, rest) := by
  cases spells with
  | none =>
    rw [List.nil_append]
    unfold fractionPart
    split
    · exact absurd rfl point
    · rfl
  | digits _ filled plain =>
    obtain ⟨taken, dropped⟩ := stops.takeWhile_append plain
    have some_digits : digits.isEmpty = false := by simpa using filled
    simp only [List.cons_append, fractionPart, taken, dropped, some_digits, Bool.false_eq_true,
      if_false]

theorem spells_of_fractionPart (characters : List Char) :
    ∃ front, characters = front ++ (fractionPart characters).2
      ∧ SpellsFraction front (fractionPart characters).1 := by
  unfold fractionPart
  split
  · rename_i behind
    simp only
    split
    · exact ⟨[], rfl, .none⟩
    · rename_i filled
      refine ⟨'.' :: behind.takeWhile isPlainDigit, ?_, .digits _ ?_ (digits_takeWhile behind)⟩
      · rw [List.cons_append, List.takeWhile_append_dropWhile]
      · simpa using filled
  · exact ⟨[], rfl, .none⟩

theorem exponentSign_of_spells {digits : List Char} {negative : Bool}
    (spells : SpellsSign characters negative) (filled : digits ≠ []) (plain : Digits digits) :
    exponentSign (characters ++ (digits ++ rest)) = (negative, digits ++ rest) := by
  cases spells with
  | plus | minus => rfl
  | none =>
    cases digits with
    | nil => exact absurd rfl filled
    | cons first others =>
      have digit : isPlainDigit first = true := plain first List.mem_cons_self
      simp only [List.nil_append, List.cons_append]
      unfold exponentSign
      split
      · rename_i same
        cases same
        exact absurd digit (by decide)
      · rename_i same
        cases same
        exact absurd digit (by decide)
      · rfl

theorem spells_of_exponentSign (characters : List Char) :
    ∃ sign, characters = sign ++ (exponentSign characters).2
      ∧ SpellsSign sign (exponentSign characters).1 := by
  unfold exponentSign
  split
  · exact ⟨['-'], rfl, .minus⟩
  · exact ⟨['+'], rfl, .plus⟩
  · exact ⟨[], rfl, .none⟩

theorem exponentPart_of_spells {power : Option (Bool × List Char)}
    (spells : SpellsExponent characters power) (ends : EndsNumber rest) :
    exponentPart (characters ++ rest) = (power, rest) := by
  cases spells with
  | none => exact ends.exponentPart_eq
  | digits mark sign digits negative isMark spells filled plain =>
    have signed : exponentSign (sign ++ (digits ++ rest)) = (negative, digits ++ rest) :=
      exponentSign_of_spells spells filled plain
    obtain ⟨taken, dropped⟩ := ends.stopsDigits.takeWhile_append plain
    have some_digits : digits.isEmpty = false := by simpa using filled
    have marked : (mark == 'e' || mark == 'E') = true := by simpa using isMark
    simp only [List.cons_append, List.append_assoc, exponentPart, marked, if_true, signed, taken,
      dropped, some_digits, Bool.false_eq_true, if_false]

theorem spells_of_exponentPart (characters : List Char) :
    ∃ front, characters = front ++ (exponentPart characters).2
      ∧ SpellsExponent front (exponentPart characters).1 := by
  unfold exponentPart
  split
  · rename_i mark behind
    split
    · rename_i isMark
      simp only
      split
      · exact ⟨[], rfl, .none⟩
      · rename_i filled
        obtain ⟨sign, same, spells⟩ := spells_of_exponentSign behind
        refine ⟨mark :: (sign ++ (exponentSign behind).2.takeWhile isPlainDigit), ?_,
          .digits mark sign _ _ (by simpa using isMark) spells (by simpa using filled)
            (digits_takeWhile _)⟩
        rw [List.cons_append, List.append_assoc, List.takeWhile_append_dropWhile, ← same]
    · exact ⟨[], rfl, .none⟩
  · exact ⟨[], rfl, .none⟩

/-- The sign of a number is not part of its whole part. -/
theorem SpellsWhole.head?_ne (spells : SpellsWhole characters) (rest : List Char) :
    (characters ++ rest).head? ≠ some '-' := by
  cases spells with
  | zero => exact nofun
  | digits first others plain _ _ =>
    rintro ⟨⟩
    exact absurd plain (by decide)

/-- **What is spelled as a number is read as its parts**, if what follows does not go on with it. -/
theorem numberParts?_of_spells {parts : NumberParts} (spells : SpellsNumber characters parts)
    (ends : EndsNumber rest) : numberParts? (characters ++ rest) = some (parts, rest) := by
  obtain ⟨negative, whole, fraction, exponent⟩ := spells
  rename_i wholeChars fractionChars exponentChars digits power
  have afterFraction : exponentPart (exponentChars ++ rest) = (power, rest) :=
    exponentPart_of_spells exponent ends
  have mark : StopsDigits (exponentChars ++ rest) ∧ (exponentChars ++ rest).head? ≠ some '.' := by
    cases exponent with
    | none => exact ⟨ends.stopsDigits, fun point => (ends '.' point).2.1 rfl⟩
    | digits mark sign digits negative isMark _ _ _ =>
      rcases isMark with rfl | rfl
      · exact ⟨.cons (by decide), by simp⟩
      · exact ⟨.cons (by decide), by simp⟩
  have afterWhole : fractionPart (fractionChars ++ (exponentChars ++ rest))
      = (digits, exponentChars ++ rest) := fractionPart_of_spells fraction mark.1 mark.2
  have point : StopsDigits (fractionChars ++ (exponentChars ++ rest)) := by
    cases fraction with
    | none => exact mark.1
    | digits => exact .cons (by decide)
  have front := wholePart?_of_spells whole point
  unfold numberParts?
  cases negative with
  | true =>
    simp only [if_true, List.nil_append, List.cons_append, List.append_assoc, List.head?_cons,
      BEq.rfl, List.tail_cons, front, afterWhole, afterFraction]
  | false =>
    have unsigned := beq_eq_false_iff_ne.mpr
      (whole.head?_ne (fractionChars ++ (exponentChars ++ rest)))
    simp only [Bool.false_eq_true, if_false, List.nil_append, List.append_assoc, unsigned, front,
      afterWhole, afterFraction]

/-- **What is read as a number is spelled as one.** -/
theorem spells_of_numberParts? {parts : NumberParts}
    (found : numberParts? characters = some (parts, rest)) :
    ∃ front, characters = front ++ rest ∧ SpellsNumber front parts := by
  unfold numberParts? at found
  simp only at found
  split at found
  · cases found
  · rename_i whole afterWhole taken
    cases found
    obtain ⟨start, wholeSpells⟩ := spells_of_wholePart? taken
    obtain ⟨fraction, first, fractionSpells⟩ := spells_of_fractionPart afterWhole
    obtain ⟨exponent, second, exponentSpells⟩ := spells_of_exponentPart (fractionPart afterWhole).2
    have sign : characters
        = (if (characters.head? == some '-') = true then ['-'] else [])
          ++ (if (characters.head? == some '-') = true then characters.tail else characters) := by
      split
      · rename_i negative
        cases characters with
        | nil => cases negative
        | cons first others =>
          obtain rfl : first = '-' := by simpa using negative
          rfl
      · rfl
    refine ⟨_, ?_, .parts _ wholeSpells fractionSpells exponentSpells⟩
    rw [List.append_assoc, List.append_assoc, List.append_assoc, ← second, ← first, ← start]
    exact sign

end Numbers

end AssetFetch.Json
