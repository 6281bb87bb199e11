/-
**Reading JSON text.**

One value, surrounded by blanks, of which the reader accepts space, tab, line feed and carriage
return. Besides the standard forms the words `NaN`, `Infinity` and `-Infinity` are numbers. Of
several members of one name the last value counts, at the place of the first. Half of an escaped
pair on its own is kept as it is.

* `Problem`, `Fault`: what is wrong with a text, and where;
* `Limits`: the longest numbers and the deepest nesting that a reader puts up with;
* `readString`, `readNumber`, `readValue`: readers of a prefix, which answer what follows it;
* `read`: the value of a whole text;
* `Depths`: how deep data may be nested.
-/

import AssetFetch.Value

namespace AssetFetch.Json

open AssetFetch.Text AssetFetch.Decimal

/-- What can be wrong with the form of a text. -/
inductive Problem where
  | expectingValue
  | expectingName
  | expectingColon
  | expectingComma
  | extraData
  | unterminated
  | controlCharacter
  | badEscape
  | badUnicodeEscape
  | byteOrderMark
  deriving DecidableEq, Repr, Inhabited

/-- The wording of a problem. -/
def Problem.message : Problem → String
  | expectingValue => "Expecting value"
  | expectingName => "Expecting property name enclosed in double quotes"
  | expectingColon => "Expecting ':' delimiter"
  | expectingComma => "Expecting ',' delimiter"
  | extraData => "Extra data"
  | unterminated => "Unterminated string starting at"
  | controlCharacter => "Invalid control character at"
  | badEscape => "Invalid \\escape"
  | badUnicodeEscape => "Invalid \\uXXXX escape"
  | byteOrderMark => "Unexpected UTF-8 BOM (decode using utf-8-sig)"

/-- What a value can be nested in. -/
inductive Container where
  | list
  | record
  deriving DecidableEq, Repr, Inhabited

/-- Why reading stops: a problem before the last `remaining` characters, a whole number with too
many digits, or a list or record inside too many others. -/
inductive Stop where
  | problem (problem : Problem) (remaining : Nat)
  | tooLong (digits : Nat)
  | tooDeep (container : Container)
  deriving DecidableEq, Repr, Inhabited

/-- The most digits of a whole number and the most lists and records inside each other, as far as
there is a limit. -/
structure Limits where
  digits : Option Nat
  depth : Option Nat
  deriving DecidableEq, Repr, Inhabited

namespace Limits

/-- The limits for data from outside, of which so many lists and records may be inside each
other. -/
def usual (depth : Nat) : Limits := ⟨some digitLimit, some depth⟩

/-- No limits. -/
def unlimited : Limits := ⟨none, none⟩

/-- The limits inside a list or a record, if there may be one. -/
def inside? (limits : Limits) : Option Limits :=
  match limits.depth with
  | none => some limits
  | some 0 => none
  | some (depth + 1) => some { limits with depth := some depth }

end Limits

/-- Reading a prefix answers the value and the characters after it. -/
abbrev Reading (α : Type) := Except Stop (α × List Char)

/-- Stops before the characters. -/
def stop {α : Type} (problem : Problem) (characters : List Char) : Reading α :=
  .error (.problem problem characters.length)

/-- Whether a character may stand between the parts of a text. -/
def isSpace (character : Char) : Bool :=
  character == ' ' || character == '\t' || character == '\n' || character == '\r'

/-- The characters after the blanks. -/
def skipSpace (characters : List Char) : List Char :=
  characters.dropWhile isSpace

/-! ### Strings -/

/-- The value of a base sixteen digit. -/
def hexValue? (character : Char) : Option Nat :=
  if isPlainDigit character then some (character.toNat - 0x30)
  else if 'a' ≤ character && character ≤ 'f' then some (character.toNat - 0x57)
  else if 'A' ≤ character && character ≤ 'F' then some (character.toNat - 0x37)
  else none

/-- The value of four base sixteen digits. -/
def hexUnit? (first second third fourth : Char) : Option Nat := do
  let first ← hexValue? first
  let second ← hexValue? second
  let third ← hexValue? third
  let fourth ← hexValue? fourth
  return ((first * 16 + second) * 16 + third) * 16 + fourth

/-- Whether a unit is the first of a pair. -/
def isHighUnit (unit : Nat) : Bool := 0xD800 ≤ unit && unit ≤ 0xDBFF

/-- Whether a unit is the second of a pair. -/
def isLowUnit (unit : Nat) : Bool := 0xDC00 ≤ unit && unit ≤ 0xDFFF

/-- A unit on its own: a character, or half of a pair. -/
def ofUnit (unit : Nat) : LooseChar :=
  if within : firstHalf ≤ unit ∧ unit - firstHalf < 0x800 then .half ⟨unit - firstHalf, within.2⟩
  else .char (Char.ofNat unit)

/-- The character of a pair of units. -/
def pairChar (high low : Nat) : Char :=
  Char.ofNat (0x10000 + (high - 0xD800) * 0x400 + (low - 0xDC00))

/-- The character of a one-letter escape. -/
def escapeChar? (letter : Char) : Option Char :=
  match letter with
  | '"' => some '"'
  | '\\' => some '\\'
  | '/' => some '/'
  | 'b' => some '\x08'
  | 'f' => some '\x0C'
  | 'n' => some '\n'
  | 'r' => some '\r'
  | 't' => some '\t'
  | _ => none

/-- What follows the first escaped unit of a pair. -/
inductive Partner where
  | absent
  | damaged
  | present (low : Nat)
  deriving DecidableEq, Repr, Inhabited

/-- The escape after a unit, given its first character and the others; a character has to follow
it. -/
def partner (next : Char) (rest : List Char) : Partner :=
  match next, rest with
  | '\\', 'u' :: first :: second :: third :: fourth :: _ :: _ =>
    match hexUnit? first second third fourth with
    | none => .damaged
    | some low => if isLowUnit low then .present low else .absent
  | _, _ => .absent

/-- Reads the rest of a string. `opening` holds the characters from its opening quote on, `taken`
what was read so far, last first. Four digits of an escape count only if a character
follows them. -/
def readString (opening : List Char) (taken : List LooseChar) : List Char → Reading LooseText
  | [] => stop .unterminated opening
  | '"' :: rest => .ok (⟨taken.reverse⟩, rest)
  | '\\' :: 'u' :: first :: second :: third :: fourth :: next :: rest =>
    match hexUnit? first second third fourth with
    | none => .error (.problem .badUnicodeEscape (rest.length + 6))
    | some unit =>
      match if isHighUnit unit then partner next rest else .absent with
      | .absent => readString opening (ofUnit unit :: taken) (next :: rest)
      | .damaged => .error (.problem .badUnicodeEscape rest.length)
      | .present low => readString opening (.char (pairChar unit low) :: taken) (rest.drop 5)
  | '\\' :: 'u' :: rest => .error (.problem .badUnicodeEscape (rest.length + 1))
  | ['\\'] => stop .unterminated opening
  | '\\' :: letter :: rest =>
    match escapeChar? letter with
    | some character => readString opening (.char character :: taken) rest
    | none => .error (.problem .badEscape (rest.length + 2))
  | character :: rest =>
    if character.toNat ≤ 0x1F then .error (.problem .controlCharacter (rest.length + 1))
    else readString opening (.char character :: taken) rest
termination_by characters => characters.length
decreasing_by all_goals simp only [List.length_cons, List.length_drop]; omega

/-! ### Numbers -/

/-- The parts of a number. -/
structure NumberParts where
  negative : Bool
  whole : List Char
  fraction : List Char
  exponent : Option (Bool × List Char)
  deriving DecidableEq, Repr, Inhabited

/-- The whole part: a zero, or digits that start with another digit. -/
def wholePart? : List Char → Option (List Char × List Char)
  | '0' :: rest => some (['0'], rest)
  | characters =>
    let digits := characters.takeWhile isPlainDigit
    if digits.isEmpty then none else some (digits, characters.dropWhile isPlainDigit)

/-- The digits after a point; a point without digits is not part of the number. -/
def fractionPart (characters : List Char) : List Char × List Char :=
  match characters with
  | '.' :: rest =>
    let digits := rest.takeWhile isPlainDigit
    if digits.isEmpty then ([], characters) else (digits, rest.dropWhile isPlainDigit)
  | _ => ([], characters)

/-- The sign of an exponent and what follows it. -/
def exponentSign : List Char → Bool × List Char
  | '-' :: rest => (true, rest)
  | '+' :: rest => (false, rest)
  | rest => (false, rest)

/-- The exponent; a mark without digits is not part of the number. -/
def exponentPart (characters : List Char) : Option (Bool × List Char) × List Char :=
  match characters with
  | mark :: rest =>
    if mark == 'e' || mark == 'E' then
      let signed := exponentSign rest
      let digits := signed.2.takeWhile isPlainDigit
      if digits.isEmpty then (none, characters)
      else (some (signed.1, digits), signed.2.dropWhile isPlainDigit)
    else (none, characters)
  | [] => (none, [])

/-- The longest number at the front, in parts. -/
def numberParts? (characters : List Char) : Option (NumberParts × List Char) :=
  let negative := characters.head? == some '-'
  match wholePart? (if negative then characters.tail else characters) with
  | none => none
  | some (whole, afterWhole) =>
    let fraction := fractionPart afterWhole
    let exponent := exponentPart fraction.2
    some (⟨negative, whole, fraction.1, exponent.1⟩, exponent.2)

/-- The value of plain digits. -/
def digitsValue (digits : List Char) : Nat :=
  foldDigits 10 (digits.map fun digit => digit.toNat - 0x30)

/-- The number that the parts denote: whole if there is neither fraction nor exponent. -/
def NumberParts.value (limit : Option Nat) (parts : NumberParts) : Except Stop Value :=
  if parts.fraction.isEmpty && parts.exponent.isNone then
    if limit.any (· < parts.whole.length) then .error (.tooLong parts.whole.length)
    else
      let size : Int := digitsValue parts.whole
      .ok (.int (if parts.negative then -size else size))
  else
    let shift : Int :=
      match parts.exponent with
      | some (true, digits) => -(digitsValue digits : Int)
      | some (false, digits) => digitsValue digits
      | none => 0
    .ok (.float (Binary64.ofDecimal parts.negative (digitsValue (parts.whole ++ parts.fraction))
      (shift - parts.fraction.length)))

/-- Reads a number, or answers that there is none. -/
def readNumber (limit : Option Nat) (characters : List Char) : Reading Value :=
  match numberParts? characters with
  | none => stop .expectingValue characters
  | some (parts, rest) => (parts.value limit).map fun value => (value, rest)

/-! ### Values -/

/-- The words that are values. -/
def words : List (String × Value) :=
  [("null", .null), ("true", .bool true), ("false", .bool false), ("NaN", .float (.notANumber 0)),
    ("Infinity", .float (.infinite false)), ("-Infinity", .float (.infinite true))]

/-- The characters after a word, if they begin with it. -/
def afterWord? (word : List Char) (characters : List Char) : Option (List Char) :=
  if word.isPrefixOf characters then some (characters.drop word.length) else none

/-- Reads a word or a number. -/
def readScalar (limit : Option Nat) (characters : List Char) : Reading Value :=
  match words.findSome? fun word =>
      (afterWord? word.1.toList characters).map fun rest => (word.2, rest) with
  | some reading => .ok reading
  | none => readNumber limit characters

/-- Reads the name of a member, the colon and the blanks after it. -/
def readName (characters : List Char) : Reading LooseText :=
  match characters with
  | '"' :: rest =>
    match readString characters [] rest with
    | .error fault => .error fault
    | .ok (name, afterName) =>
      match skipSpace afterName with
      | ':' :: afterColon => .ok (name, skipSpace afterColon)
      | other => stop .expectingColon other
  | _ => stop .expectingName characters

mutual

/-- Reads a value. Each nesting and each item takes one from `fuel`. -/
def readValue (limits : Limits) : (fuel : Nat) → List Char → Reading Value
  | 0, characters => stop .expectingValue characters
  | fuel + 1, characters =>
    match characters with
    | '"' :: rest =>
      (readString characters [] rest).map fun reading => (.text reading.1, reading.2)
    | '[' :: rest =>
      match limits.inside? with
      | none => .error (.tooDeep .list)
      | some inner =>
        match skipSpace rest with
        | ']' :: after => .ok (.list [], after)
        | items => readItems inner fuel [] items
    | '\x7b' :: rest =>
      match limits.inside? with
      | none => .error (.tooDeep .record)
      | some inner =>
        match skipSpace rest with
        | '\x7d' :: after => .ok (.record [], after)
        | members => readMembers inner fuel [] members
    | _ => readScalar limits.digits characters

/-- Reads the items of a list from the first on; `taken` holds those before, last first. -/
def readItems (limits : Limits) : (fuel : Nat) → (taken : List Value) → List Char → Reading Value
  | 0, _, characters => stop .expectingValue characters
  | fuel + 1, taken, characters =>
    match readValue limits fuel characters with
    | .error fault => .error fault
    | .ok (item, afterItem) =>
      match skipSpace afterItem with
      | ']' :: after => .ok (.list (item :: taken).reverse, after)
      | ',' :: after => readItems limits fuel (item :: taken) (skipSpace after)
      | other => stop .expectingComma other

/-- Reads the members of a record from the first on; `taken` holds those before. -/
def readMembers (limits : Limits) :
    (fuel : Nat) → (taken : List (LooseText × Value)) → List Char → Reading Value
  | 0, _, characters => stop .expectingValue characters
  | fuel + 1, taken, characters =>
    match readName characters with
    | .error fault => .error fault
    | .ok (name, afterName) =>
      match readValue limits fuel afterName with
      | .error fault => .error fault
      | .ok (value, afterValue) =>
        match skipSpace afterValue with
        | '\x7d' :: after => .ok (.record (Value.setMember name value taken), after)
        | ',' :: after =>
          readMembers limits fuel (Value.setMember name value taken) (skipSpace after)
        | other => stop .expectingComma other

end

/-! ### Whole texts -/

/-- A problem at a place: the number of characters before it, its line and its column. -/
structure Malformed where
  problem : Problem
  position : Nat
  line : Nat
  column : Nat
  deriving DecidableEq, Repr, Inhabited

/-- The wording of a malformed text. -/
def Malformed.message (fault : Malformed) : String :=
  fault.problem.message ++ ": line " ++ natText fault.line ++ " column " ++ natText fault.column
    ++ " (char " ++ natText fault.position ++ ")"

/-- A problem located in its text. -/
def Malformed.locate (problem : Problem) (text : List Char) (position : Nat) : Malformed :=
  let before := text.take position
  { problem
    position
    line := before.count '\n' + 1
    column := (before.reverse.takeWhile (· != '\n')).length + 1 }

/-- Why a text has no value. -/
inductive Fault where
  | malformed (fault : Malformed)
  | tooLong (digits : Nat)
  | tooDeep (container : Container)
  deriving DecidableEq, Repr, Inhabited

/-- The fault of a text where reading stopped. -/
def Stop.fault (text : List Char) : Stop → Fault
  | .problem found remaining =>
    .malformed (.locate found text (text.length - remaining))
  | .tooLong digits => .tooLong digits
  | .tooDeep container => .tooDeep container

/-- Reads one value and the blanks around it, and nothing else. -/
def readWhole (limits : Limits) (characters : List Char) : Except Stop Value :=
  match readValue limits (2 * characters.length + 2) (skipSpace characters) with
  | .error fault => .error fault
  | .ok (value, rest) =>
    match skipSpace rest with
    | [] => .ok value
    | other => .error (.problem .extraData other.length)

/-- The value of a text within limits. -/
def readWithin (limits : Limits) (text : String) : Except Fault Value :=
  let characters := text.toList
  match characters with
  | '\uFEFF' :: _ => .error (.malformed (.locate .byteOrderMark characters 0))
  | _ => (readWhole limits characters).mapError (Stop.fault characters)

/-- The value of a text from outside. -/
def read (depth : Nat) (text : String) : Except Fault Value :=
  readWithin (.usual depth) text

/-- How many lists and records may be inside each other, when data is read and when it is written.
The numbers depend on how much of its stack the program has used already; what has been written can
be read again, since writing uses more of it. -/
structure Depths where
  read : Nat
  written : Nat
  fewer : written < read
  deriving DecidableEq, Repr

/-- The depths that one such stack leaves. -/
def Depths.usual : Depths := ⟨985, 490, by decide⟩

instance : Inhabited Depths := ⟨.usual⟩

end AssetFetch.Json
