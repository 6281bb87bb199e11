/-
**Numerals.**

Whole numbers as text, with a limit on the number of decimal digits so that no text makes the
program compute for long.

* `decimalDigits`, `natText`, `intText`: numbers as decimal text;
* `foldDigits`: the value of digits in a base;
* `decimalNumber`: reads the decimal digits of any script and says what is wrong otherwise;
* `octalNumber?`: reads base eight with sign, surrounding blanks, the mark `0o` and single
  underscores between digits.
-/

import AssetFetch.Text.DecimalDigit
import AssetFetch.Text.Quoted

namespace AssetFetch.Text

/-- The longest decimal numeral that is read or written. -/
def digitLimit : Nat := 4300

/-- The number as decimal digits. -/
def natText (value : Nat) : String :=
  String.ofList (Nat.toDigits 10 value)

/-- The number as decimal digits, with a minus sign below zero. -/
def intText (value : Int) : String :=
  if value < 0 then "-" ++ natText value.natAbs else natText value.natAbs

/-- How many decimal digits a number has. -/
def digitCount (value : Int) : Nat :=
  (Nat.toDigits 10 value.natAbs).length

/-- The value of a sequence of digits, the highest first. -/
def foldDigits (base : Nat) (digits : List Nat) : Nat :=
  digits.foldl (fun value digit => value * base + digit) 0

/-- Why a text is not read as a decimal number. -/
inductive NumeralFault where
  | tooLong (digits : Nat)
  | malformed (text : String)
  deriving DecidableEq, Repr, Inhabited

/-- The most characters of a malformed numeral that are shown. -/
def shownNumeralLength : Nat := 200

/-- The wording of a numeral's fault. -/
def NumeralFault.message : NumeralFault → String
  | tooLong digits =>
    "Exceeds the limit (" ++ natText digitLimit
      ++ " digits) for integer string conversion: value has "
      ++ natText digits ++ " digits; use sys.set_int_max_str_digits() to increase the limit"
  | malformed text =>
    "invalid literal for int() with base 10: "
      ++ String.ofList ((quotedChars text.toList).take shownNumeralLength)

/-- Reads decimal digits of any script. The length of the leading digits is judged before what
follows them. -/
def decimalNumber (text : String) : Except NumeralFault Nat :=
  let leading := (text.toList.takeWhile isDecimalDigit).length
  if leading > digitLimit then .error (.tooLong leading)
  else if text.isEmpty || leading < text.length then .error (.malformed text)
  else .ok (foldDigits 10 (text.toList.filterMap digitValue?))

/-- Whether a character may surround a numeral: blank, the information separators excepted. -/
def isNumeralBlank (character : Char) : Bool :=
  isBlank character && !inRanges [(0x1C, 0x1F)] character.toNat

/-- The characters without the numeral blanks at both ends. -/
def trimNumeral (characters : List Char) : List Char :=
  ((characters.dropWhile isNumeralBlank).reverse.dropWhile isNumeralBlank).reverse

/-- The value of a digit below eight. -/
def octalValue? (character : Char) : Option Nat :=
  (digitValue? character).filter (· < 8)

/-- Reads octal digits with single underscores between them; `afterDigit` tells whether the
character before was a digit. -/
def octalDigits? (value : Nat) : (afterDigit : Bool) → List Char → Option Nat
  | afterDigit, [] => if afterDigit then some value else none
  | afterDigit, character :: rest =>
    if character == '_' then
      if afterDigit then octalDigits? value false rest else none
    else
      match octalValue? character with
      | some digit => octalDigits? (value * 8 + digit) true rest
      | none => none

/-- Whether a character reads as the digit zero. -/
def isZeroDigit (character : Char) : Bool :=
  digitValue? character == some 0

/-- Reads an octal numeral without sign, with or without its mark; one underscore may follow the
mark. -/
def unsignedOctal? : List Char → Option Nat
  | zeroDigit :: mark :: rest =>
    if isZeroDigit zeroDigit && (mark == 'o' || mark == 'O') then
      match rest with
      | '_' :: digits => octalDigits? 0 false digits
      | digits => octalDigits? 0 false digits
    else octalDigits? 0 false (zeroDigit :: mark :: rest)
  | characters => octalDigits? 0 false characters

/-- Reads a number in base eight. -/
def octalNumber? (text : String) : Option Int :=
  match trimNumeral text.toList with
  | '-' :: rest => (unsignedOctal? rest).map fun value => -(value : Int)
  | '+' :: rest => (unsignedOctal? rest).map fun value => (value : Int)
  | characters => (unsignedOctal? characters).map fun value => (value : Int)

end AssetFetch.Text
