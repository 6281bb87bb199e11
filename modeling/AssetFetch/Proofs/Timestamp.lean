/-
**A timestamp is read from its text.**

The reader goes through bytes and asks at each place what stands there, so the text is followed from
place to place: first the date, then the clock time up to the first sign, then the offset.

* `Timestamp.Holds`: the characters that stand in bytes from a place on;
* `Holds.digitsAt?_eq`: digits with zeros in front are read where they stand;
* `Holds.readClock?_minutes`, `Holds.readClock?_seconds`: **clock times are read to their end**;
* `Holds.readOffset?`: an offset of whole seconds is read behind its sign;
* `ofText?_text`: **a timestamp is read from its text**;
* `Release.published_roundTrip`: a release has been published at the time that its description says.
-/

import AssetFetch.Proofs.Lookup
import AssetFetch.Proofs.Text.Decoding

namespace AssetFetch

open AssetFetch.Text

namespace Timestamp

/-! ### Places in bytes -/

section Places

variable {bytes : Bytes} {place : Nat} {character : Char} {characters front rest : List Char}

/-- The byte of a plain character. -/
def plainByte (character : Char) : UInt8 :=
  UInt8.ofNat character.toNat

/-- Characters that are encoded as one byte each. -/
def IsPlain (characters : List Char) : Prop :=
  ∀ character ∈ characters, character.toNat ≤ 0x7F

theorem encode_of_plain (plain : IsPlain characters) :
    encode (String.ofList characters) = characters.map plainByte := by
  rw [encode, String.toList_ofList]
  induction characters with
  | nil => rfl
  | cons first others ih =>
    obtain ⟨here, later⟩ := List.forall_mem_cons.mp plain
    have one := encodeChar_one here
    rw [Char.ofNat_toNat] at one
    rw [List.flatMap_cons, one, ih later]
    rfl

/-- From a place on, the bytes are those of plain characters. -/
def Holds (bytes : Bytes) (place : Nat) (characters : List Char) : Prop :=
  ∃ before : Bytes, before.length = place ∧ bytes = before ++ characters.map plainByte

theorem Holds.length (holds : Holds bytes place characters) :
    bytes.length = place + characters.length := by
  obtain ⟨before, rfl, rfl⟩ := holds
  rw [List.length_append, List.length_map]

theorem Holds.drop (holds : Holds bytes place characters) :
    bytes.drop place = characters.map plainByte := by
  obtain ⟨before, rfl, rfl⟩ := holds
  exact List.drop_left

theorem Holds.byteAt_eq (holds : Holds bytes place (character :: rest)) :
    byteAt bytes place = plainByte character := by
  obtain ⟨before, rfl, rfl⟩ := holds
  simp [byteAt]

theorem Holds.byteAt_end (holds : Holds bytes place []) : byteAt bytes place = 0 := by
  obtain ⟨before, rfl, rfl⟩ := holds
  simp [byteAt]

/-- What stands behind some of the characters. -/
theorem Holds.after (holds : Holds bytes place (front ++ rest)) :
    Holds bytes (place + front.length) rest := by
  obtain ⟨before, rfl, rfl⟩ := holds
  exact ⟨before ++ front.map plainByte, by simp, by simp⟩

theorem Holds.next (holds : Holds bytes place (character :: rest)) :
    Holds bytes (place + 1) rest := by
  have whole : Holds bytes place ([character] ++ rest) := holds
  exact whole.after

end Places

/-! ### Digits -/

section Digits

variable {bytes : Bytes} {place width value : Nat} {character : Char} {rest : List Char}

/-- One of the ten digits. -/
def digitChar (digit : Nat) : Char :=
  Char.ofNat (0x30 + digit % 10)

theorem length_paddedDigits (width value : Nat) : (paddedDigits width value).length = width := by
  induction width generalizing value with
  | zero => rfl
  | succ width ih => rw [paddedDigits, List.length_append, ih, List.length_singleton]

/-- Padded digits consist of digits. -/
theorem exists_digit_of_mem (member : character ∈ paddedDigits width value) :
    ∃ digit < 10, character = digitChar digit := by
  induction width generalizing value with
  | zero => cases member
  | succ width ih =>
    rcases List.mem_append.mp member with front | last
    · exact ih front
    · have small : value % 10 < 10 := Nat.mod_lt _ (by decide)
      refine ⟨value % 10, small, ?_⟩
      rw [List.mem_singleton.mp last, digitChar, Nat.mod_mod]

/-- **Digits with zeros in front are read where they stand.** -/
theorem Holds.digitsAt?_eq (holds : Holds bytes place (paddedDigits width value ++ rest))
    (small : value < 10 ^ width) : digitsAt? bytes place width = some value := by
  induction width generalizing value rest with
  | zero =>
    rw [Nat.pow_zero] at small
    rw [digitsAt?, Nat.lt_one_iff.mp small]
  | succ width ih =>
    rw [paddedDigits, List.append_assoc, List.singleton_append] at holds
    have before := ih holds (by rw [Nat.pow_succ] at small; omega)
    have last := holds.after.byteAt_eq
    rw [length_paddedDigits] at last
    have digit : ∀ digit < 10, isDigitByte (plainByte (Char.ofNat (0x30 + digit))) = true
        ∧ (plainByte (Char.ofNat (0x30 + digit))).toNat - 0x30 = digit := by decide
    obtain ⟨plain, worth⟩ := digit (value % 10) (Nat.mod_lt _ (by decide))
    simp only [digitsAt?, before, last, plain, worth, Option.bind_eq_bind,
      Option.bind_some, if_true, Option.some.injEq]
    omega

/-- Digits do not go on. -/
def StopsDigits (characters : List Char) : Prop :=
  ∀ character ∈ characters.head?, isDigitByte (plainByte character) = false

theorem Holds.digitRun_eq (holds : Holds bytes place rest) (stops : StopsDigits rest) :
    digitRun bytes place = 0 := by
  rw [digitRun, holds.drop]
  cases rest with
  | nil => rfl
  | cons first others =>
    rw [List.map_cons, List.takeWhile_cons_of_neg (by simp [stops first rfl])]
    rfl

end Digits

/-! ### Clock times -/

section Clocks

variable {bytes : Bytes} {place hour minute second microsecond : Nat} {rest : List Char}

/-- Hours and minutes. -/
def minutesText (hour minute : Nat) : List Char :=
  paddedDigits 2 hour ++ ':' :: paddedDigits 2 minute

/-- Hours, minutes, seconds and a fraction if there is one. -/
def secondsText (hour minute second microsecond : Nat) : List Char :=
  minutesText hour minute ++ ':' :: (paddedDigits 2 second ++ fractionText microsecond)

theorem length_minutesText : (minutesText hour minute).length = 5 := by
  simp [minutesText, length_paddedDigits]

theorem length_secondsText : (secondsText hour minute second microsecond).length
    = 8 + (fractionText microsecond).length := by
  simp [secondsText, length_minutesText, length_paddedDigits]
  omega

/-- A number of a clock time before the colon behind it. -/
theorem Holds.readNumbers?_colon {finish count number : Nat} {colons : Option Bool}
    {numbers : List Nat} (fit : colons.getD true = true)
    (holds : Holds bytes place (paddedDigits 2 number ++ ':' :: rest)) (small : number < 100)
    (more : place + 3 < finish) :
    readNumbers? bytes finish colons numbers (count + 1) place
      = readNumbers? bytes finish (some true) (numbers ++ [number]) count (place + 3) := by
  have read := holds.digitsAt?_eq small
  have next := holds.after.byteAt_eq
  rw [length_paddedDigits] at next
  have colon : isByte ':' (plainByte ':') = true := by decide
  simp only [readNumbers?, read, next, colon, fit, Option.bind_eq_bind, Option.bind_some,
    ge_iff_le, Nat.not_le.mpr more, Bool.and_self, if_true, if_false]

/-- The last number of a clock time. -/
theorem Holds.readNumbers?_last {count number : Nat} {colons : Option Bool} {numbers : List Nat}
    (holds : Holds bytes place (paddedDigits 2 number ++ rest)) (small : number < 100) :
    readNumbers? bytes (place + 2) colons numbers (count + 1) place
      = some (.ofNumbers (numbers ++ [number]) 0, byteAt bytes (place + 2) != 0) := by
  have read := holds.digitsAt?_eq small
  have ends : place + 2 ≤ place + 3 := by omega
  simp only [readNumbers?, read, Option.bind_eq_bind, Option.bind_some, ge_iff_le, ends, if_true]

/-- The last number of a clock time before the fraction behind it. -/
theorem Holds.readNumbers?_fraction {count number : Nat} {numbers : List Nat}
    (holds : Holds bytes place
      (paddedDigits 2 number ++ '.' :: (paddedDigits 6 microsecond ++ rest)))
    (small : number < 100) (fine : microsecond < 1000000) (stops : StopsDigits rest) :
    readNumbers? bytes (place + 9) (some true) numbers (count + 1) place
      = some (.ofNumbers (numbers ++ [number]) microsecond, byteAt bytes (place + 9) != 0) := by
  have read := holds.digitsAt?_eq small
  have point := holds.after
  rw [length_paddedDigits] at point
  have fraction := point.next
  have digits := fraction.digitsAt?_eq fine
  have behind := fraction.after
  rw [length_paddedDigits] at behind
  have more : ¬ place + 9 ≤ place + 3 := by omega
  have width : min 6 (place + 9 - (place + 3)) = 6 := by omega
  have byte : isByte ':' (plainByte '.') = false ∧ isByte '.' (plainByte '.') = true := by decide
  simp only [readNumbers?, read, point.byteAt_eq, byte, Option.getD_some, Option.bind_eq_bind,
    Option.bind_some, ge_iff_le, more, if_false, Bool.and_false, Bool.false_eq_true, Bool.true_or,
    if_true, readFraction?, width, digits, behind.digitRun_eq stops, Nat.add_zero, Nat.sub_self,
    Nat.pow_eq, Nat.pow_zero, Nat.mul_one]
  rfl

/-- **Hours and minutes are read to their end.** -/
theorem Holds.readClock?_minutes (holds : Holds bytes place (minutesText hour minute ++ rest))
    (hours : hour < 100) (minutes : minute < 100) :
    readClock? bytes place (place + 5)
      = some (⟨hour, minute, 0, 0⟩, byteAt bytes (place + 5) != 0) := by
  rw [minutesText, List.append_assoc, List.cons_append] at holds
  have behind := holds.after.next
  rw [length_paddedDigits] at behind
  rw [readClock?, holds.readNumbers?_colon Option.getD_none hours (by omega),
    behind.readNumbers?_last minutes]
  rfl

/-- **Hours, minutes and seconds are read to their end**, with a fraction if there is one. -/
theorem Holds.readClock?_seconds
    (holds : Holds bytes place (secondsText hour minute second microsecond ++ rest))
    (hours : hour < 100) (minutes : minute < 100) (seconds : second < 100)
    (fine : microsecond < 1000000) (stops : StopsDigits rest) :
    readClock? bytes place (place + (secondsText hour minute second microsecond).length)
      = some (⟨hour, minute, second, microsecond⟩,
          byteAt bytes (place + (secondsText hour minute second microsecond).length) != 0) := by
  rw [length_secondsText]
  rw [secondsText, minutesText] at holds
  simp only [List.append_assoc, List.cons_append] at holds
  have behind := holds.after.next
  rw [length_paddedDigits] at behind
  have last := behind.after.next
  rw [length_paddedDigits] at last
  rw [readClock?, holds.readNumbers?_colon Option.getD_none hours (by omega),
    behind.readNumbers?_colon Option.getD_some minutes (by omega)]
  by_cases whole : microsecond = 0
  · subst whole
    exact last.readNumbers?_last seconds
  · have fraction : fractionText microsecond = '.' :: paddedDigits 6 microsecond := by
      rw [fractionText, beq_eq_false_iff_ne.mpr whole]
      rfl
    rw [fraction, List.cons_append] at last
    rw [fraction, List.length_cons, length_paddedDigits]
    exact last.readNumbers?_fraction seconds fine stops

end Clocks

/-! ### Offsets -/

section Offsets

variable {bytes : Bytes} {place : Nat} {offset : Int}

/-- The clock time of a number of seconds. -/
def clockOf (seconds : Nat) : Clock :=
  ⟨seconds / 3600, seconds / 60 % 60, seconds % 60, 0⟩

/-- A clock time as it is written in an offset: the seconds only where there are some. -/
def clockText (seconds : Nat) : List Char :=
  if seconds % 60 = 0 then minutesText (seconds / 3600) (seconds / 60 % 60)
  else secondsText (seconds / 3600) (seconds / 60 % 60) (seconds % 60) 0

/-- The sign of an offset. -/
def signChar (offset : Int) : Char :=
  if offset < 0 then '-' else '+'

/-- An offset of whole seconds. -/
theorem offsetText_eq (whole : offset % 1000000 = 0) :
    offsetText offset = signChar offset :: clockText (offset.natAbs / 1000000) := by
  have exact_seconds : offset.natAbs % 1000000 = 0 := by omega
  unfold offsetText clockText signChar
  simp only [exact_seconds]
  by_cases minutes : offset.natAbs / 1000000 % 60 = 0
  · simp [minutes, minutesText]
  · simp [minutes, minutesText, secondsText, fractionText]

/-- The size of an offset comes from its clock time. -/
theorem offsetOf_clockOf (negative : Bool) (seconds : Nat) :
    offsetOf negative (clockOf seconds)
      = if negative then -(seconds * 1000000 : Int) else seconds * 1000000 := by
  have sum : seconds / 3600 * 3600 + seconds / 60 % 60 * 60 + seconds % 60 = seconds := by omega
  simp only [offsetOf, clockOf, sum]
  by_cases none : seconds = 0
  · simp [none]
  · simp [none]

theorem Holds.readClock?_clockText {seconds : Nat} (holds : Holds bytes place (clockText seconds))
    (day : seconds < 86400) :
    readClock? bytes place bytes.length = some (clockOf seconds, false) := by
  have hours : seconds / 3600 < 100 := by omega
  have minutes : seconds / 60 % 60 < 100 := by omega
  have size := holds.length
  rw [← List.append_nil (clockText seconds)] at holds
  have ends := holds.after.byteAt_end
  rw [size]
  unfold clockText at holds ends ⊢
  by_cases none : seconds % 60 = 0
  · rw [if_pos none] at holds ends ⊢
    rw [length_minutesText] at ends ⊢
    rw [holds.readClock?_minutes hours minutes, ends, clockOf, none]
    rfl
  · rw [if_neg none] at holds ends ⊢
    rw [holds.readClock?_seconds hours minutes (by omega) (by omega) nofun, ends, clockOf]
    rfl

/-- **An offset of whole seconds is read behind its sign.** -/
theorem Holds.readOffset? (holds : Holds bytes place (offsetText offset))
    (whole : offset % 1000000 = 0) (day : offset.natAbs < microsecondsPerDay) :
    ∃ clock, readClock? bytes (place + 1) bytes.length = some (clock, false)
      ∧ offsetOf (isByte '-' (byteAt bytes place)) clock = offset := by
  rw [offsetText_eq whole] at holds
  have sign : isByte '-' (byteAt bytes place) = decide (offset < 0) := by
    rw [holds.byteAt_eq, signChar]
    by_cases negative : offset < 0
    · rw [if_pos negative, decide_eq_true negative]
      decide
    · rw [if_neg negative, decide_eq_false negative]
      decide
  refine ⟨_, holds.next.readClock?_clockText (by unfold microsecondsPerDay at day; omega), ?_⟩
  rw [sign, offsetOf_clockOf]
  by_cases negative : offset < 0
  · simp only [negative, decide_true, if_true]
    omega
  · simp only [negative, decide_false, Bool.false_eq_true, if_false]
    omega

end Offsets

/-! ### Whole timestamps -/

section Whole

variable {bytes : Bytes} {place : Nat} {stamp : Timestamp}

/-- The characters of clock times. -/
def clockLetters : List Char :=
  ['0', '1', '2', '3', '4', '5', '6', '7', '8', '9', ':', '.']

/-- The characters of timestamps. -/
def stampLetters : List Char :=
  '-' :: '+' :: 'T' :: clockLetters

theorem paddedDigits_subset (width value : Nat) : paddedDigits width value ⊆ clockLetters := by
  intro character member
  obtain ⟨digit, small, rfl⟩ := exists_digit_of_mem member
  exact (by decide : ∀ digit < 10, digitChar digit ∈ clockLetters) digit small

theorem minutesText_subset (hour minute : Nat) : minutesText hour minute ⊆ clockLetters :=
  List.append_subset.mpr ⟨paddedDigits_subset 2 hour,
    List.cons_subset.mpr ⟨by decide, paddedDigits_subset 2 minute⟩⟩

theorem fractionText_subset (microsecond : Nat) : fractionText microsecond ⊆ clockLetters := by
  unfold fractionText
  split
  · exact List.nil_subset _
  · exact List.cons_subset.mpr ⟨by decide, paddedDigits_subset 6 microsecond⟩

theorem secondsText_subset (hour minute second microsecond : Nat) :
    secondsText hour minute second microsecond ⊆ clockLetters :=
  List.append_subset.mpr ⟨minutesText_subset hour minute, List.cons_subset.mpr ⟨by decide,
    List.append_subset.mpr ⟨paddedDigits_subset 2 second, fractionText_subset microsecond⟩⟩⟩

/-- A date as it is written. -/
def dateText (date : Date) : List Char :=
  paddedDigits 4 date.year
    ++ '-' :: (paddedDigits 2 date.month ++ '-' :: paddedDigits 2 date.day)

/-- The clock time of a timestamp as it is written. -/
def timeText (stamp : Timestamp) : List Char :=
  secondsText stamp.hour stamp.minute stamp.second stamp.microsecond

/-- The offset of a timestamp as it is written. -/
def zoneText (stamp : Timestamp) : List Char :=
  (stamp.offset.map offsetText).getD []

theorem chars_eq (stamp : Timestamp) :
    stamp.chars = dateText stamp.date ++ 'T' :: (timeText stamp ++ zoneText stamp) := by
  unfold chars dateText timeText zoneText secondsText minutesText
  cases stamp.offset with
  | none => simp
  | some offset => simp

/-- An offset of whole seconds, or none. -/
def HasWholeOffset (stamp : Timestamp) : Prop :=
  ∀ offset ∈ stamp.offset, offset % 1000000 = 0

theorem chars_subset (whole : stamp.HasWholeOffset) : stamp.chars ⊆ stampLetters := by
  have letters : clockLetters ⊆ stampLetters := by decide
  have digits : ∀ width value, paddedDigits width value ⊆ stampLetters := fun width value =>
    List.Subset.trans (paddedDigits_subset width value) letters
  have zone : zoneText stamp ⊆ stampLetters := by
    unfold zoneText
    cases zone : stamp.offset with
    | none => exact List.nil_subset _
    | some offset =>
      show offsetText offset ⊆ stampLetters
      rw [offsetText_eq (whole offset zone), signChar, clockText]
      refine List.cons_subset.mpr ⟨by split <;> decide, ?_⟩
      split
      · exact List.Subset.trans (minutesText_subset _ _) letters
      · exact List.Subset.trans (secondsText_subset _ _ _ _) letters
  rw [chars_eq, dateText]
  refine List.append_subset.mpr ⟨?_, List.cons_subset.mpr ⟨by decide, List.append_subset.mpr
    ⟨List.Subset.trans (secondsText_subset _ _ _ _) letters, zone⟩⟩⟩
  exact List.append_subset.mpr ⟨digits _ _, List.cons_subset.mpr ⟨by decide,
    List.append_subset.mpr ⟨digits _ _, List.cons_subset.mpr ⟨by decide, digits _ _⟩⟩⟩⟩

/-- No sign stands in a clock time. -/
theorem not_sign_of_mem {character : Char} (member : character ∈ timeText stamp) :
    isSignByte (plainByte character) = false := by
  have signless : clockLetters.all (fun letter => !isSignByte (plainByte letter)) = true := by
    decide
  simpa using List.all_eq_true.mp signless character (secondsText_subset _ _ _ _ member)

/-- **The clock time ends at the first sign**, or at the end. -/
theorem Holds.signPlace?_eq (holds : Holds bytes place (timeText stamp ++ zoneText stamp))
    (whole : stamp.HasWholeOffset) :
    signPlace? bytes place = stamp.offset.map fun _ => place + (timeText stamp).length := by
  have unsigned : ((timeText stamp).map plainByte).findIdx? isSignByte = none := by
    rw [List.findIdx?_eq_none_iff]
    intro byte member
    obtain ⟨character, inside, rfl⟩ := List.mem_map.mp member
    exact not_sign_of_mem inside
  rw [signPlace?, holds.drop, List.map_append, List.findIdx?_append, unsigned, List.length_map]
  unfold zoneText
  cases zone : stamp.offset with
  | none => rfl
  | some offset =>
    have sign : isSignByte (plainByte (signChar offset)) = true := by
      unfold signChar
      split <;> decide
    simp [offsetText_eq (whole offset zone), List.findIdx?_cons, sign]

theorem stopsDigits_zoneText (whole : stamp.HasWholeOffset) : StopsDigits (zoneText stamp) := by
  unfold zoneText
  cases zone : stamp.offset with
  | none => exact nofun
  | some offset =>
    show StopsDigits (offsetText offset)
    rw [offsetText_eq (whole offset zone), signChar]
    rintro character ⟨⟩
    split <;> decide

/-- **The time of day and the offset are read back.** -/
theorem Holds.readTime?_eq (holds : Holds bytes place (timeText stamp ++ zoneText stamp))
    (valid : stamp.IsValid) (whole : stamp.HasWholeOffset) :
    readTime? bytes place
      = some (⟨stamp.hour, stamp.minute, stamp.second, stamp.microsecond⟩, stamp.offset) := by
  obtain ⟨_, hours, minutes, seconds, fine, near⟩ := valid
  have clock := holds.readClock?_seconds (by omega) (by omega) (by omega) (by omega)
    (stopsDigits_zoneText whole)
  have size := holds.length
  have behind := holds.after
  rw [readTime?, holds.signPlace?_eq whole]
  unfold zoneText at size behind
  cases zone : stamp.offset with
  | none =>
    rw [zone] at size behind
    have ends : bytes.length = place + (timeText stamp).length := by simpa using size
    have nothing := behind.byteAt_end
    unfold timeText at ends nothing
    simp only [Option.map_none, ends, clock, nothing]
    rfl
  | some offset =>
    rw [zone] at behind
    obtain ⟨found, read, same⟩ := behind.readOffset? (whole offset zone) (near offset zone)
    unfold timeText at read same
    simp only [Option.map_some, timeText, clock, read, Option.bind_eq_bind, Option.bind_some, same]
    rfl

/-- Padded digits start with a digit. -/
theorem Holds.byteAt_digits {width value : Nat} {rest : List Char}
    (holds : Holds bytes place (paddedDigits (width + 1) value ++ rest)) :
    isByte 'W' (byteAt bytes place) = false := by
  cases digits : paddedDigits (width + 1) value with
  | nil =>
    have length := length_paddedDigits (width + 1) value
    rw [digits] at length
    cases length
  | cons first others =>
    obtain ⟨digit, small, same⟩ := exists_digit_of_mem (digits ▸ List.mem_cons_self : first ∈ _)
    rw [digits] at holds
    rw [holds.byteAt_eq, same]
    exact (by decide : ∀ digit < 10, isByte 'W' (plainByte (digitChar digit)) = false) digit small

theorem daysInMonth_le (year month : Nat) : daysInMonth year month ≤ 31 := by
  unfold daysInMonth
  repeat' split
  all_goals decide

/-- Only twelve months have days. -/
theorem month_le {year month : Nat} (days : 0 < daysInMonth year month) : month ≤ 12 := by
  by_contra late
  have other : ∀ number ≤ 12, (month == number) = false := fun number small =>
    beq_eq_false_iff_ne.mpr (by omega)
  have none : daysInMonth year month = 0 := by
    simp [daysInMonth, other, late]
  omega

theorem Holds.byteAt_hyphen {rest : List Char} (holds : Holds bytes place ('-' :: rest)) :
    isByte '-' (byteAt bytes place) = true := by
  rw [holds.byteAt_eq]
  decide

section Dates

variable {date : Date} {rest : List Char}

/-- The month of a date that stands at the front. -/
theorem Holds.monthText (holds : Holds bytes 0 (dateText date ++ rest)) :
    Holds bytes 4
      ('-' :: (paddedDigits 2 date.month ++ '-' :: (paddedDigits 2 date.day ++ rest))) := by
  rw [dateText] at holds
  simp only [List.append_assoc, List.cons_append] at holds
  have behind := holds.after
  rwa [length_paddedDigits] at behind

/-- The day of a date that stands at the front. -/
theorem Holds.dayText (holds : Holds bytes 0 (dateText date ++ rest)) :
    Holds bytes 7 ('-' :: (paddedDigits 2 date.day ++ rest)) := by
  have behind := holds.monthText.next.after
  rwa [length_paddedDigits] at behind

/-- **A date ends where its text does.** -/
theorem Holds.dateLength?_eq (holds : Holds bytes 0 (dateText date ++ rest))
    (long : 10 < bytes.length) : dateLength? bytes = some 10 := by
  have short : ¬ bytes.length < 7 := by omega
  have other : (bytes.length == 7) = false := beq_eq_false_iff_ne.mpr (by omega)
  simp only [dateLength?, short, other, holds.monthText.byteAt_hyphen,
    holds.monthText.next.byteAt_digits, Bool.false_eq_true, if_true, if_false]

/-- **A date is read from its text.** -/
theorem Holds.readDate?_eq (holds : Holds bytes 0 (dateText date ++ rest)) (valid : date.IsValid) :
    readDate? bytes 10 = some date := by
  obtain ⟨_, late, _, lastDay⟩ := valid
  have days := daysInMonth_le date.year date.month
  have months := month_le (show 0 < daysInMonth date.year date.month by omega)
  have year : digitsAt? bytes 0 4 = some date.year := by
    rw [dateText, List.append_assoc] at holds
    exact holds.digitsAt?_eq (by omega)
  have month : digitsAt? bytes 5 2 = some date.month :=
    holds.monthText.next.digitsAt?_eq (by omega)
  have day : digitsAt? bytes 8 2 = some date.day := holds.dayText.next.digitsAt?_eq (by omega)
  simp only [readDate?, year, month, day, holds.monthText.byteAt_hyphen,
    holds.dayText.byteAt_hyphen, holds.monthText.next.byteAt_digits, Option.bind_eq_bind,
    Option.bind_some, Bool.false_eq_true, if_true, if_false]
  rfl

end Dates

/-- **A timestamp is read from its bytes.** -/
theorem ofBytes?_chars (valid : stamp.IsValid) (whole : stamp.HasWholeOffset)
    (holds : Holds bytes 0 stamp.chars) : ofBytes? bytes = some stamp := by
  have size := holds.length
  rw [chars_eq] at holds size
  have letter := holds.after
  have date : (dateText stamp.date).length = 10 := by simp [dateText, length_paddedDigits]
  rw [date] at letter
  have long : 10 < bytes.length := by
    rw [List.length_append, date, List.length_cons] at size
    omega
  have one : separatorLength (byteAt bytes 10) = 1 := by
    rw [letter.byteAt_eq]
    decide
  simp only [ofBytes?, holds.dateLength?_eq long, holds.readDate?_eq valid.1, one, long,
    letter.next.readTime?_eq valid whole, valid, Option.bind_eq_bind, Option.bind_some, if_true]

/-! ### Texts -/

/-- Half of a pair stands in no text of plain characters. -/
theorem withPlainSeparator_map (characters : List Char) :
    withPlainSeparator (characters.map .char) = characters.map .char := by
  have whole : separatorPlaces.find? (fun place =>
      (characters.map LooseChar.char)[place]?.any LooseChar.isHalf) = none := by
    rw [List.find?_eq_none]
    intro place _
    rw [List.getElem?_map]
    cases characters[place]? with
    | none => exact Bool.false_ne_true
    | some character => exact Bool.false_ne_true
  rw [withPlainSeparator, whole]

theorem firstHalves?_map (position : Nat) (characters : List Char) :
    LooseText.firstHalves? position (characters.map .char) = none := by
  induction characters generalizing position with
  | nil => rfl
  | cons first others ih => exact ih (position + 1)

/-- The characters with the offset zero written out. -/
def zeroWritten (characters : List Char) : List Char :=
  characters.flatMap fun character =>
    if character = 'Z' then ['+', '0', '0', ':', '0', '0'] else [character]

theorem withZeroOffset_map (characters : List Char) :
    withZeroOffset (characters.map .char) = (zeroWritten characters).map .char := by
  rw [withZeroOffset, zeroWritten, List.flatMap_map, List.map_flatMap]
  congr 1
  funext character
  by_cases letter : character = 'Z'
  · rw [if_pos letter, letter]
    rfl
  · rw [if_neg letter, if_neg (by simpa using letter)]
    rfl

/-- A text without halves is read as its bytes are, with the offset zero written out. -/
theorem ofText?_ofString (text : String) :
    ofText? (LooseText.ofString text)
      = ofBytes? (encode (String.ofList (zeroWritten text.toList))) := by
  have shown : LooseText.shown ⟨(zeroWritten text.toList).map .char⟩
      = String.ofList (zeroWritten text.toList) := by
    rw [← LooseText.shown_ofString (String.ofList (zeroWritten text.toList)), LooseText.ofString,
      String.toList_ofList]
  simp only [ofText?, LooseText.ofString, withZeroOffset_map, withPlainSeparator_map,
    LooseText.unencodable?, firstHalves?_map, shown]
  rfl

/-- No letter of a timestamp stands for an offset. -/
theorem zeroWritten_of_subset {characters : List Char} (letters : characters ⊆ stampLetters) :
    zeroWritten characters = characters := by
  induction characters with
  | nil => rfl
  | cons first others ih =>
    obtain ⟨here, later⟩ := List.cons_subset.mp letters
    have letter : stampLetters.all (· != 'Z') = true := by decide
    have other : first ≠ 'Z' := bne_iff_ne.mp (List.all_eq_true.mp letter first here)
    rw [zeroWritten, List.flatMap_cons, if_neg other]
    exact congrArg (first :: ·) (ih later)

/-- **A timestamp is read from its characters**, with the offset zero written out. -/
theorem ofText?_of_zeroWritten {text : String} (valid : stamp.IsValid)
    (whole : stamp.HasWholeOffset) (written : zeroWritten text.toList = stamp.chars) :
    ofText? (LooseText.ofString text) = some stamp := by
  have small : stampLetters.all (fun letter => letter.toNat ≤ 0x7F) = true := by decide
  have plain : IsPlain stamp.chars := fun character member =>
    of_decide_eq_true (List.all_eq_true.mp small character (chars_subset whole member))
  rw [ofText?_ofString, written, encode_of_plain plain]
  exact ofBytes?_chars valid whole ⟨[], rfl, rfl⟩

/-- **A timestamp is read from its text.** -/
theorem ofText?_text (valid : stamp.IsValid) (whole : stamp.HasWholeOffset) :
    ofText? (LooseText.ofString stamp.text) = some stamp := by
  refine ofText?_of_zeroWritten valid whole ?_
  rw [text, String.toList_ofList, zeroWritten_of_subset (chars_subset whole)]

/-- A timestamp with the offset zero in the place of none. -/
def atZero (stamp : Timestamp) : Timestamp :=
  { stamp with offset := some 0 }

/-- **The letter `Z` behind a text without an offset stands for the offset zero.** -/
theorem ofText?_text_zero (valid : stamp.IsValid) (naive : stamp.offset = none) :
    ofText? (LooseText.ofString (stamp.text ++ "Z")) = some stamp.atZero := by
  have whole : stamp.HasWholeOffset := by
    rw [HasWholeOffset, naive]
    exact nofun
  have zone : stamp.atZero.HasWholeOffset := by
    rintro offset ⟨⟩
    rfl
  have near : stamp.atZero.IsValid := by
    obtain ⟨date, hours, minutes, seconds, fine, _⟩ := valid
    refine ⟨date, hours, minutes, seconds, fine, ?_⟩
    rintro offset ⟨⟩
    decide
  refine ofText?_of_zeroWritten near zone ?_
  rw [text, String.toList_append, String.toList_ofList, zeroWritten, List.flatMap_append]
  have front := zeroWritten_of_subset (chars_subset whole)
  rw [zeroWritten] at front
  have zero : offsetText 0 = ['+', '0', '0', ':', '0', '0'] := by decide
  rw [front, chars_eq, chars_eq, zoneText, zoneText, naive]
  show (dateText stamp.date ++ 'T' :: (timeText stamp ++ [])) ++ ['+', '0', '0', ':', '0', '0']
    = dateText stamp.date ++ 'T' :: (timeText stamp ++ offsetText 0)
  rw [zero, List.append_nil, List.append_assoc, List.cons_append]

end Whole

end Timestamp

/-! ### Releases -/

/-- **The time of a publication survives being written**: a release whose description has the text
of a timestamp has been published at this time, and a text without an offset and with the letter
`Z` behind it stands for the offset zero. -/
theorem Release.published_roundTrip {stamp : Timestamp} {members : List (LooseText × Value)}
    (valid : stamp.IsValid) (whole : stamp.HasWholeOffset)
    (listing : IsListing (Value.memberOrNull "assets" members)) :
    (Value.member? "published_at" members = some (.text (LooseText.ofString stamp.text)) →
        ∃ release, ofValue (.record members) = .ok release ∧ release.published = some stamp)
      ∧ (stamp.offset = none →
        Value.member? "published_at" members
            = some (.text (LooseText.ofString (stamp.text ++ "Z"))) →
          ∃ release, ofValue (.record members) = .ok release
            ∧ release.published = some stamp.atZero) := by
  obtain ⟨assets, read⟩ := exists_assetsOf_iff.mpr listing
  have described : ∀ {text time}, Value.member? "published_at" members = some (.text text) →
      Timestamp.ofText? text = some time →
      ∃ release, ofValue (.record members) = .ok release ∧ release.published = some time := by
    intro text time found known
    refine ⟨_, by rw [ofValue, read], ?_⟩
    show timeOf (Value.memberOrNull "published_at" members) = some time
    rw [Value.memberOrNull, found]
    exact known
  exact ⟨fun found => described found (Timestamp.ofText?_text valid whole),
    fun naive found => described found (Timestamp.ofText?_text_zero valid naive)⟩

/-- A time before midnight on a leap day, at a negative offset with seconds. -/
def leapTime : Timestamp :=
  ⟨⟨2024, 2, 29⟩, 23, 59, 59, 999999, some (-86399000000)⟩

/-- The time of a leap day is read from a description without assets. -/
theorem Release.published_leapTime :
    leapTime.IsValid ∧ leapTime.HasWholeOffset
      ∧ ∃ release, Release.ofValue (.record [("published_at", .text leapTime.text)]) = .ok release
        ∧ release.published = some leapTime := by
  have valid : leapTime.IsValid := by decide
  have whole : leapTime.HasWholeOffset := by
    rintro offset ⟨⟩
    rfl
  exact ⟨valid, whole, (Release.published_roundTrip valid whole (.inl rfl)).1 rfl⟩

end AssetFetch
