/-
**Reading timestamps.**

A date in calendar or week form, with or without hyphens, one character of any kind, and a time of
day with or without colons, followed by an offset. The reader works on the bytes of the text; the
place after the last byte reads as zero.

* `dateLength?`: where the date ends;
* `readDate?`: the date before that place;
* `readClock?`: hours, minutes, seconds and a fraction, and whether anything follows them;
* `ofBytes?`: the timestamp of a text in which an offset stands as digits;
* `ofText?`: the same for texts in which the letter `Z` stands for the offset zero and half of a
  pair may separate the date from the time.
-/

import AssetFetch.Timestamp
import AssetFetch.Text.Loose
import AssetFetch.Text.Utf8

namespace AssetFetch.Timestamp

open AssetFetch.Text

/-- The byte at a place, zero after the end. -/
def byteAt (bytes : Bytes) (place : Nat) : UInt8 :=
  bytes.getD place 0

/-- Whether a byte is the given plain character. -/
def isByte (character : Char) (byte : UInt8) : Bool :=
  byte.toNat == character.toNat

/-- Whether a byte is a plain digit. -/
def isDigitByte (byte : UInt8) : Bool :=
  0x30 ≤ byte && byte ≤ 0x39

/-- The number in `count` digits from a place on. -/
def digitsAt? (bytes : Bytes) (place : Nat) : (count : Nat) → Option Nat
  | 0 => some 0
  | count + 1 => do
    let before ← digitsAt? bytes place count
    let byte := byteAt bytes (place + count)
    if isDigitByte byte then some (before * 10 + (byte.toNat - 0x30)) else none

/-- The number of digits from a place on. -/
def digitRun (bytes : Bytes) (place : Nat) : Nat :=
  ((bytes.drop place).takeWhile isDigitByte).length

/-! ### Dates -/

/-- The length of the date at the front. -/
def dateLength? (bytes : Bytes) : Option Nat :=
  let size := bytes.length
  if size < 7 then none
  else if size == 7 then some 7
  else if isByte '-' (byteAt bytes 4) then
    if isByte 'W' (byteAt bytes 5) then
      if size > 8 && isByte '-' (byteAt bytes 8) then
        if size == 9 then none
        else if size > 10 && isDigitByte (byteAt bytes 10) then some 8
        else some 10
      else some 8
    else some 10
  else if isByte 'W' (byteAt bytes 4) then
    let place := 7 + digitRun bytes 7
    if place < 9 then some place else if place % 2 == 0 then some 7 else some 8
  else some 8

/-- The date in the first `size` bytes. -/
def readDate? (bytes : Bytes) (size : Nat) : Option Date := do
  let year ← digitsAt? bytes 0 4
  let hyphens := isByte '-' (byteAt bytes 4)
  let start := if hyphens then 5 else 4
  let gap := if hyphens then 1 else 0
  if isByte 'W' (byteAt bytes start) then
    let week ← digitsAt? bytes (start + 1) 2
    if start + 3 < size then
      guard (!hyphens || isByte '-' (byteAt bytes (start + 3)))
      let day ← digitsAt? bytes (start + 3 + gap) 1
      ofWeekDate? year week day
    else ofWeekDate? year week 1
  else
    let month ← digitsAt? bytes start 2
    guard (!hyphens || isByte '-' (byteAt bytes (start + 2)))
    let day ← digitsAt? bytes (start + 2 + gap) 2
    some ⟨year, month, day⟩

/-! ### Clock times -/

/-- Hours, minutes, seconds and microseconds. -/
structure Clock where
  hour : Nat
  minute : Nat
  second : Nat
  microsecond : Nat
  deriving DecidableEq, Repr, Inhabited

/-- The clock time of up to three numbers and a fraction. -/
def Clock.ofNumbers (numbers : List Nat) (microsecond : Nat) : Clock :=
  ⟨numbers.getD 0 0, numbers.getD 1 0, numbers.getD 2 0, microsecond⟩

/-- Reads the fraction from a place on: at most six digits count, those after them are skipped.
Answers the time and whether anything follows it. -/
def readFraction? (bytes : Bytes) (place finish : Nat) (numbers : List Nat) :
    Option (Clock × Bool) := do
  let width := min 6 (finish - place)
  let fraction ← digitsAt? bytes place width
  let rest := place + width + digitRun bytes (place + width)
  return (.ofNumbers numbers (fraction * Nat.pow 10 (6 - width)), byteAt bytes rest != 0)

/-- Reads further numbers of two digits from a place on, `count` at most. `colons` tells whether
colons stand between them; what follows the first number decides that. -/
def readNumbers? (bytes : Bytes) (finish : Nat) (colons : Option Bool) (numbers : List Nat) :
    (count : Nat) → (place : Nat) → Option (Clock × Bool)
  | 0, place => readFraction? bytes place finish numbers
  | count + 1, place => do
    let number ← digitsAt? bytes place 2
    let next := byteAt bytes (place + 2)
    let colons := colons.getD (isByte ':' next)
    let numbers := numbers ++ [number]
    if place + 3 ≥ finish then some (.ofNumbers numbers 0, next != 0)
    else if colons && isByte ':' next then
      readNumbers? bytes finish (some colons) numbers count (place + 3)
    else if isByte '.' next || isByte ',' next then
      readFraction? bytes (place + 3) finish numbers
    else if !colons then readNumbers? bytes finish (some colons) numbers count (place + 2)
    else none

/-- Reads a clock time that ends at `finish`. -/
def readClock? (bytes : Bytes) (place finish : Nat) : Option (Clock × Bool) :=
  readNumbers? bytes finish none [] 3 place

/-! ### Whole timestamps -/

/-- The length of a character by its first byte. -/
def separatorLength (byte : UInt8) : Nat :=
  if byte < 0x80 then 1
  else if byte &&& 0xF0 == 0xE0 then 3
  else if byte &&& 0xF0 == 0xF0 then 4
  else 2

/-- Whether a byte starts an offset. -/
def isSignByte (byte : UInt8) : Bool :=
  isByte '+' byte || isByte '-' byte

/-- The place of the first sign from a place on, if there is one. -/
def signPlace? (bytes : Bytes) (place : Nat) : Option Nat :=
  ((bytes.drop place).findIdx? isSignByte).map (place + ·)

/-- The offset of a clock time in microseconds; one without hours, minutes and seconds is zero. -/
def offsetOf (negative : Bool) (clock : Clock) : Int :=
  let seconds := clock.hour * 3600 + clock.minute * 60 + clock.second
  let size : Int := if seconds == 0 then 0 else (seconds * 1000000 + clock.microsecond : Nat)
  if negative then -size else size

/-- The time of day and the offset from a place on. -/
def readTime? (bytes : Bytes) (place : Nat) : Option (Clock × Option Int) :=
  match signPlace? bytes place with
  | none => do
    let (clock, more) ← readClock? bytes place bytes.length
    guard (!more)
    return (clock, none)
  | some sign => do
    let (clock, _) ← readClock? bytes place sign
    let (offset, more) ← readClock? bytes (sign + 1) bytes.length
    guard (!more)
    return (clock, some (offsetOf (isByte '-' (byteAt bytes sign)) offset))

/-- The timestamp of a byte sequence. -/
def ofBytes? (bytes : Bytes) : Option Timestamp := do
  let size ← dateLength? bytes
  let date ← readDate? bytes size
  let (clock, offset) ←
    if bytes.length > size then
      readTime? bytes (size + separatorLength (byteAt bytes size))
    else some (⟨0, 0, 0, 0⟩, none)
  let stamp : Timestamp :=
    ⟨date, clock.hour, clock.minute, clock.second, clock.microsecond, offset⟩
  if stamp.IsValid then some stamp else none

/-- The characters of the offset zero. -/
def zeroOffset : List LooseChar :=
  ['+', '0', '0', ':', '0', '0'].map .char

/-- A text with the offset zero written out. -/
def withZeroOffset (characters : List LooseChar) : List LooseChar :=
  characters.flatMap fun character => if character = .char 'Z' then zeroOffset else [character]

/-- The places where the date may be separated from the time. -/
def separatorPlaces : List Nat := [7, 8, 10]

/-- A text with a letter in the place of the first half that is a separator. -/
def withPlainSeparator (characters : List LooseChar) : List LooseChar :=
  match separatorPlaces.find? fun place => characters[place]?.any LooseChar.isHalf with
  | some place => characters.set place (.char 'T')
  | none => characters

/-- The timestamp of a text. Halves of pairs are no part of one but as a separator. -/
def ofText? (text : LooseText) : Option Timestamp :=
  let plain : LooseText := ⟨withPlainSeparator (withZeroOffset text.characters)⟩
  if plain.unencodable?.isSome then none else ofBytes? (encode plain.shown)

/-- A date by its week, with a time to the minute. -/
example : (ofText? "2021-W11-1 10:30Z").map Timestamp.text = some "2021-03-15T10:30:00+00:00" := by
  decide +kernel

end AssetFetch.Timestamp
