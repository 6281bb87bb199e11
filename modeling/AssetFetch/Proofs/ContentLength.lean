/-
**The size that a response announces.**

* `digitValue?_of_isPlainDigit`: a plain digit has its own value;
* `decimalNumber_of_plain`: plain digits are read as the number that they denote, unless they are
  too many;
* `contentLength_of_plain`, `contentLength_of_not_plain`: what is made of a header's text;
* `Announces`: a header's text is, blanks aside, a sequence of plain digits that is not too long,
  and denotes a size;
* `contentLength_eq_ok_iff`: a size is read exactly then;
* `ReadsSize`: what is promised of every header, and `header_size_read_iff`: **the promise is kept
  exactly for headers without too many digits**.
-/

import AssetFetch.Download
import AssetFetch.Proofs.Text.Numerals
import Mathlib.Data.List.Basic
import Mathlib.Data.List.TakeWhile

namespace AssetFetch

open AssetFetch.Text

/-! ### Plain digits -/

section Digits

/-- The value of a plain digit. -/
def plainValue (digit : Char) : Nat :=
  digit.toNat - '0'.toNat

theorem digitValue?_of_isPlainDigit {digit : Char} (plain : isPlainDigit digit = true) :
    digitValue? digit = some (plainValue digit) := by
  have bounds : 0x30 ≤ digit.toNat ∧ digit.toNat < 0x3A := by
    simp only [isPlainDigit, Bool.and_eq_true, decide_eq_true_eq] at plain
    have low : '0'.toNat ≤ digit.toNat := plain.1
    have high : digit.toNat ≤ '9'.toNat := plain.2
    exact ⟨low, Nat.lt_succ_of_le high⟩
  simp [digitValue?, decimalZeros, bounds.1, bounds.2, plainValue]

theorem isDecimalDigit_of_isPlainDigit {digit : Char} (plain : isPlainDigit digit = true) :
    isDecimalDigit digit = true := by
  simp [isDecimalDigit, digitValue?_of_isPlainDigit plain]

/-- The values of plain digits, one by one. -/
theorem filterMap_digitValue? {digits : List Char}
    (plain : ∀ digit ∈ digits, isPlainDigit digit = true) :
    digits.filterMap digitValue? = digits.map plainValue := by
  rw [← List.filterMap_eq_map]
  exact List.filterMap_congr fun digit member => digitValue?_of_isPlainDigit (plain digit member)

/-- The number that plain digits denote. -/
def plainNumber (digits : List Char) : Nat :=
  foldDigits 10 (digits.map plainValue)

/-- **Plain digits are read as the number that they denote**, unless they are too many. -/
theorem decimalNumber_of_plain {digits : List Char} (some : digits ≠ [])
    (plain : ∀ digit ∈ digits, isPlainDigit digit = true) :
    decimalNumber (String.ofList digits)
      = if digits.length > digitLimit then .error (.tooLong digits.length)
        else .ok (plainNumber digits) := by
  have all : digits.takeWhile isDecimalDigit = digits :=
    List.takeWhile_eq_self_iff.mpr fun digit member =>
      isDecimalDigit_of_isPlainDigit (plain digit member)
  have nonempty : (String.ofList digits).isEmpty = false := by
    simpa using some
  simp [decimalNumber, all, filterMap_digitValue? plain, nonempty, plainNumber]

/-- Plain digits denote their number. -/
theorem denotes_iff_of_plain {digits : List Char} {number : Nat}
    (plain : ∀ digit ∈ digits, isPlainDigit digit = true) :
    Denotes digits number ↔ digits ≠ [] ∧ number = plainNumber digits := by
  have decimal : ∀ digit ∈ digits, isDecimalDigit digit = true := fun digit member =>
    isDecimalDigit_of_isPlainDigit (plain digit member)
  rw [denotes_iff, filterMap_digitValue? plain, plainNumber]
  exact and_congr_right fun _ => and_iff_right decimal

end Digits

/-! ### Texts of headers -/

section Texts

variable {characters : LooseText}

/-- The characters of a header's text, blanks around them aside, are plain digits, at least one. -/
def IsPlainSize (characters : LooseText) : Prop :=
  trimChars characters.shown.toList ≠ []
    ∧ ∀ digit ∈ trimChars characters.shown.toList, isPlainDigit digit = true

/-- A sequence of plain digits is read, unless it is too long. -/
theorem contentLength_of_plain (url : Value) (plain : IsPlainSize characters) :
    contentLength url (.text characters)
      = if (trimChars characters.shown.toList).length > digitLimit
        then .error (.numeral (.tooLong (trimChars characters.shown.toList).length))
        else .ok (plainNumber (trimChars characters.shown.toList)) := by
  unfold IsPlainSize at plain
  unfold contentLength
  simp only
  generalize trimChars characters.shown.toList = digits at plain ⊢
  have passed : (digits.isEmpty || !digits.all isPlainDigit) = false := by
    simpa using plain
  rw [passed, if_neg Bool.false_ne_true, decimalNumber_of_plain plain.1 plain.2]
  split <;> rfl

/-- Any other text is reported. -/
theorem contentLength_of_not_plain (url : Value) (other : ¬ IsPlainSize characters) :
    contentLength url (.text characters)
      = .error (.ofFetch (.contentLength url (.text characters))) := by
  unfold IsPlainSize at other
  unfold contentLength
  simp only
  generalize trimChars characters.shown.toList = digits at other ⊢
  have refused : (digits.isEmpty || !digits.all isPlainDigit) = true := by
    by_contra passed
    exact other (by simpa using passed)
  rw [if_pos refused]

end Texts

/-! ### Announcements -/

section Announcements

variable {response : Response} {total : Nat}

/-- The response has a text for its size that is, blanks around it aside, a sequence of plain digits
and denotes the size. -/
def Announces (response : Response) (total : Nat) : Prop :=
  ∃ characters, response.headers.value? "content-length" = some (.text characters)
    ∧ trimChars characters.shown.toList ≠ []
    ∧ (∀ digit ∈ trimChars characters.shown.toList, isPlainDigit digit = true)
    ∧ (trimChars characters.shown.toList).length ≤ digitLimit
    ∧ total = plainNumber (trimChars characters.shown.toList)

/-- **A size is read exactly where one is announced.** -/
theorem contentLength_eq_ok_iff (url : Value) :
    contentLength url ((response.headers.value? "content-length").getD .null) = .ok total
      ↔ Announces response total := by
  unfold Announces
  cases found : response.headers.value? "content-length" with
  | none => simp [contentLength]
  | some value =>
    cases value with
    | text characters =>
      simp only [Option.getD_some, Option.some.injEq, Value.text.injEq, exists_eq_left']
      by_cases plain : IsPlainSize characters
      · rw [contentLength_of_plain url plain]
        obtain ⟨filled, digits⟩ := plain
        split
        · rename_i long
          exact iff_of_false nofun fun announced => by omega
        · rename_i short
          rw [Except.ok.injEq]
          exact ⟨fun same => ⟨filled, digits, by omega, same.symm⟩,
            fun announced => announced.2.2.2.symm⟩
      · rw [contentLength_of_not_plain url plain]
        exact iff_of_false nofun fun announced => plain ⟨announced.1, announced.2.1⟩
    | _ => simp [contentLength]

end Announcements

/-! ### Every header -/

section Headers

variable {header : Option LooseText} {size : Nat}

/-- The value that stands for a header, which may be missing. -/
def headerValue : Option LooseText → Value
  | none => .null
  | some characters => .text characters

/-- A header denotes a size: blanks around it aside, it is a sequence of plain digits, and the size
is the number that they denote. -/
def DenotesSize (header : Option LooseText) (size : Nat) : Prop :=
  ∃ characters ∈ header,
    (∀ digit ∈ trimChars characters.shown.toList, isPlainDigit digit = true)
      ∧ Denotes (trimChars characters.shown.toList) size

/-- A header has more digits than are read. -/
def HasLongSize (header : Option LooseText) : Prop :=
  ∃ characters ∈ header, IsPlainSize characters
    ∧ digitLimit < (trimChars characters.shown.toList).length

/-- **What is promised of the size in a header**: it is the number that the header denotes, and a
header that denotes none is reported, together with the address. -/
structure ReadsSize (url : Value) (header : Option LooseText) (outcome : Except Failure Nat) :
    Prop where
  read : ∀ size, outcome = .ok size ↔ DenotesSize header size
  refused : (¬ ∃ size, DenotesSize header size) →
    outcome = .error (.ofFetch (.contentLength url (headerValue header)))

theorem denotesSize_some_iff {characters : LooseText} :
    DenotesSize (some characters) size
      ↔ IsPlainSize characters ∧ size = plainNumber (trimChars characters.shown.toList) := by
  unfold DenotesSize IsPlainSize
  simp only [Option.mem_some_iff, exists_eq_left']
  constructor
  · rintro ⟨plain, denotes⟩
    obtain ⟨filled, same⟩ := (denotes_iff_of_plain plain).mp denotes
    exact ⟨⟨filled, plain⟩, same⟩
  · rintro ⟨⟨filled, plain⟩, same⟩
    exact ⟨plain, (denotes_iff_of_plain plain).mpr ⟨filled, same⟩⟩

theorem contentLength_of_long (url : Value) (long : HasLongSize header) :
    ∃ digits, contentLength url (headerValue header) = .error (.numeral (.tooLong digits)) := by
  obtain ⟨characters, rfl, plain, many⟩ := long
  exact ⟨_, (contentLength_of_plain url plain).trans (if_pos many)⟩

/-- A number with too many digits is neither read nor reported. -/
theorem not_readsSize_of_long (url : Value) (long : HasLongSize header) :
    ¬ ReadsSize url header (contentLength url (headerValue header)) := by
  rintro ⟨read, _⟩
  obtain ⟨digits, failed⟩ := contentLength_of_long url long
  obtain ⟨characters, rfl, plain, _⟩ := long
  have denoted := (read _).mpr (denotesSize_some_iff.mpr ⟨plain, rfl⟩)
  rw [failed] at denoted
  cases denoted

/-- **The size in a header is read exactly, unless it has too many digits.** A header that denotes a
number gives this number, and any other header, or none, is reported; only a sequence of more plain
digits than are read fails in another way. -/
theorem header_size_read_iff (url : Value) (header : Option LooseText) :
    ReadsSize url header (contentLength url (headerValue header)) ↔ ¬ HasLongSize header := by
  constructor
  · exact fun kept long => not_readsSize_of_long url long kept
  · intro short
    cases header with
    | none =>
      have nothing : ∀ size, ¬ DenotesSize none size := by
        rintro size ⟨_, ⟨⟩, _⟩
      exact ⟨fun size => iff_of_false nofun (nothing size), fun _ => rfl⟩
    | some characters =>
      by_cases plain : IsPlainSize characters
      · have few : ¬ (trimChars characters.shown.toList).length > digitLimit :=
          fun many => short ⟨characters, rfl, plain, many⟩
        have read : contentLength url (headerValue (some characters))
            = .ok (plainNumber (trimChars characters.shown.toList)) :=
          (contentLength_of_plain url plain).trans (if_neg few)
        refine ⟨fun size => ?_, fun none => absurd ⟨_, denotesSize_some_iff.mpr ⟨plain, rfl⟩⟩ none⟩
        rw [read, denotesSize_some_iff, Except.ok.injEq]
        exact ⟨fun same => ⟨plain, same.symm⟩, fun denotes => denotes.2.symm⟩
      · have refused : contentLength url (headerValue (some characters)) = _ :=
          contentLength_of_not_plain url plain
        refine ⟨fun size => ?_, fun _ => refused⟩
        rw [refused, denotesSize_some_iff]
        exact iff_of_false nofun fun denotes => plain denotes.1

/-- Zeros, one more than digits are read. -/
def longSize : LooseText :=
  ⟨List.replicate (digitLimit + 1) (.char '0')⟩

/-- Such a header denotes a number, and is neither read nor reported. -/
theorem long_header_size_is_not_read :
    (∃ size, DenotesSize (some longSize) size)
      ∧ contentLength (.text "u") (headerValue (some longSize))
        = .error (.numeral (.tooLong (digitLimit + 1)))
      ∧ ¬ ReadsSize (.text "u") (some longSize)
        (contentLength (.text "u") (headerValue (some longSize))) := by
  have digits : trimChars longSize.shown.toList = List.replicate (digitLimit + 1) '0' := by
    have shown : longSize.shown.toList = List.replicate (digitLimit + 1) '0' := by
      simp [longSize, LooseText.shown, LooseChar.shown]
    rw [shown, trimChars, List.dropWhile_replicate, if_neg (by decide), List.reverse_replicate,
      List.dropWhile_replicate, if_neg (by decide), List.reverse_replicate]
  have plain : IsPlainSize longSize := by
    unfold IsPlainSize
    rw [digits]
    refine ⟨by simp, fun digit member => ?_⟩
    rw [List.eq_of_mem_replicate member]
    rfl
  have many : (trimChars longSize.shown.toList).length = digitLimit + 1 := by
    rw [digits, List.length_replicate]
  refine ⟨⟨_, denotesSize_some_iff.mpr ⟨plain, rfl⟩⟩, ?_, ?_⟩
  · refine (contentLength_of_plain _ plain).trans ?_
    rw [many]
    exact if_pos (Nat.lt_succ_self _)
  · exact not_readsSize_of_long _ ⟨longSize, rfl, plain, by omega⟩

end Headers

end AssetFetch
