/-
**What is decoded is encoded text.**

Of every character there is one spelling in bytes only: no byte is put up with that would make a
longer spelling of a smaller number, a half of a pair or a number beyond all characters.

* `encodeChar_one`, `encodeChar_two`, `encodeChar_three`, `encodeChar_four`: the bytes of a
  character by the size of its number;
* `exists_next`: one more byte of a character that is read;
* `encoded_of_char`: **a piece that is a character consists of the bytes of that character**;
* `decode_eq_ok_iff`: **the bytes that are decoded to a text are its bytes and no others**.
-/

import AssetFetch.Proofs.Text.Utf8

namespace AssetFetch.Text

/-! ### The bytes of a character -/

section Encoded

variable {point : Nat}

theorem toNat_ofNat_of_apart (apart : point < 0xD800 ∨ (0xE000 ≤ point ∧ point < 0x110000)) :
    (Char.ofNat point).val.toNat = point := by
  have valid : point.isValidChar := by
    rcases apart with low | ⟨high, bound⟩
    · exact .inl low
    · exact .inr ⟨by omega, bound⟩
  rw [Char.ofNat, dif_pos valid]
  rfl

theorem encodeChar_one (below : point ≤ 0x7F) :
    String.utf8EncodeChar (Char.ofNat point) = [UInt8.ofNat point] := by
  unfold String.utf8EncodeChar
  simp only [toNat_ofNat_of_apart (show point < 0xD800 ∨ _ from .inl (by omega)), if_pos below]

theorem encodeChar_two (above : 0x7F < point) (below : point ≤ 0x7FF) :
    String.utf8EncodeChar (Char.ofNat point)
      = [UInt8.ofNat (point / 64 % 0x20 + 0xC0), UInt8.ofNat (point % 0x40 + 0x80)] := by
  unfold String.utf8EncodeChar
  simp only [toNat_ofNat_of_apart (show point < 0xD800 ∨ _ from .inl (by omega))]
  rw [if_neg (by omega), if_pos below]

theorem encodeChar_three (above : 0x7FF < point) (below : point ≤ 0xFFFF)
    (apart : point < 0xD800 ∨ 0xE000 ≤ point) :
    String.utf8EncodeChar (Char.ofNat point)
      = [UInt8.ofNat (point / 4096 % 0x10 + 0xE0), UInt8.ofNat (point / 64 % 0x40 + 0x80),
          UInt8.ofNat (point % 0x40 + 0x80)] := by
  unfold String.utf8EncodeChar
  simp only [toNat_ofNat_of_apart (apart.imp_right fun high => ⟨high, by omega⟩)]
  rw [if_neg (by omega), if_neg (by omega), if_pos below]

theorem encodeChar_four (above : 0xFFFF < point) (below : point < 0x110000) :
    String.utf8EncodeChar (Char.ofNat point)
      = [UInt8.ofNat (point / 262144 % 0x08 + 0xF0), UInt8.ofNat (point / 4096 % 0x40 + 0x80),
          UInt8.ofNat (point / 64 % 0x40 + 0x80), UInt8.ofNat (point % 0x40 + 0x80)] := by
  unfold String.utf8EncodeChar
  simp only [toNat_ofNat_of_apart (show _ ∨ _ from .inr ⟨show 0xE000 ≤ point by omega, below⟩)]
  rw [if_neg (by omega), if_neg (by omega), if_neg (by omega)]

end Encoded

/-! ### Pieces -/

section Pieces

variable {character : Char} {taken rest : Bytes} {value count length : Nat} {low high first : UInt8}

/-- Where a character is read there is one more byte, and it is within the bounds. -/
theorem exists_next
    (read : readPiece taken value (count + 1) low high rest = (.char character, length)) :
    ∃ number others, rest = UInt8.ofNat number :: others ∧ number < 0x100
      ∧ low.toNat ≤ number ∧ number ≤ high.toNat
      ∧ readPiece (UInt8.ofNat number :: taken) (value * 0x40 + number % 0x40) count 0x80 0xBF
          others = (.char character, length) := by
  cases rest with
  | nil => cases congrArg Prod.fst read
  | cons byte others =>
    rw [readPiece] at read
    split at read
    · rename_i within
      rw [Bool.and_eq_true, decide_eq_true_eq, decide_eq_true_eq, UInt8.le_iff_toNat_le,
        UInt8.le_iff_toNat_le] at within
      have same : UInt8.ofNat byte.toNat = byte := UInt8.ofNat_toNat
      refine ⟨byte.toNat, others, by rw [same], byte.toNat_lt, within.1, within.2, ?_⟩
      rw [same]
      exact read
    · cases congrArg Prod.fst read

/-- Where a character ends it has the number that was read. -/
theorem eq_of_readPiece
    (read : readPiece taken value 0 low high rest = (.char character, length)) :
    character = Char.ofNat value ∧ length = taken.length := by
  rw [readPiece] at read
  cases read
  exact ⟨rfl, rfl⟩

/-- No character starts with a byte that could only continue one, or would spell it too long. -/
theorem continuation?_eq_none {number : Nat} (small : number < 0x100)
    (outside : 0x80 ≤ number ∧ number < 0xC2 ∨ 0xF5 ≤ number) :
    continuation? (UInt8.ofNat number) = none := by
  simp only [continuation?, UInt8.lt_iff_toNat_lt, toNat_byte small, byte_beq small,
    UInt8.reduceToNat, beq_iff_eq]
  rcases outside with ⟨above, below⟩ | above
  · rw [if_neg (by omega), if_pos below]
  · rw [if_neg (by omega), if_neg (by omega), if_neg (by omega), if_neg (by omega),
      if_neg (by omega), if_neg (by omega), if_neg (by omega), if_neg (by omega),
      if_neg (by omega)]

/-- Some bytes begin with those of a character. -/
def Encoded (character : Char) (length : Nat) (first : UInt8) (rest : Bytes) : Prop :=
  ∃ others after, rest = others ++ after
    ∧ String.utf8EncodeChar character = first :: others ∧ length = others.length + 1

section Lengths

variable {number : Nat}

theorem encoded_one (below : number < 0x80)
    (read : firstPiece (UInt8.ofNat number) rest = (.char character, length)) :
    Encoded character length (UInt8.ofNat number) rest := by
  unfold firstPiece at read
  rw [continuation?_one below] at read
  obtain ⟨rfl, rfl⟩ := eq_of_readPiece read
  refine ⟨[], rest, rfl, ?_, rfl⟩
  rw [startBits, toNat_byte (by omega), encodeChar_one (by omega)]

theorem encoded_two (above : 0xC2 ≤ number) (below : number < 0xE0)
    (read : firstPiece (UInt8.ofNat number) rest = (.char character, length)) :
    Encoded character length (UInt8.ofNat number) rest := by
  unfold firstPiece at read
  rw [continuation?_two above below] at read
  obtain ⟨second, after, rfl, _, least, most, read⟩ := exists_next read
  obtain ⟨rfl, rfl⟩ := eq_of_readPiece read
  refine ⟨[UInt8.ofNat second], after, rfl, ?_, rfl⟩
  rw [startBits, toNat_byte (by omega)]
  simp only [UInt8.reduceToNat] at least most
  rw [encodeChar_two (by omega) (by omega)]
  congr 3 <;> omega

theorem encoded_three (above : 0xE0 ≤ number) (below : number < 0xF0)
    (read : firstPiece (UInt8.ofNat number) rest = (.char character, length)) :
    Encoded character length (UInt8.ofNat number) rest := by
  unfold firstPiece at read
  rw [continuation?_three above below] at read
  obtain ⟨second, _, rfl, _, least, most, read⟩ := exists_next read
  obtain ⟨third, after, rfl, _, lower, upper, read⟩ := exists_next read
  obtain ⟨rfl, rfl⟩ := eq_of_readPiece read
  refine ⟨[UInt8.ofNat second, UInt8.ofNat third], after, rfl, ?_, rfl⟩
  rw [startBits, toNat_byte (by omega)]
  -- the second byte is not so low that two bytes were enough, nor one of a half of a pair
  simp only [apply_ite UInt8.toNat, UInt8.reduceToNat] at least most lower upper
  have long : number = 0xE0 ∧ 0xA0 ≤ second ∨ number ≠ 0xE0 ∧ 0x80 ≤ second := by
    split at least <;> omega
  have whole : number = 0xED ∧ second ≤ 0x9F ∨ number ≠ 0xED ∧ second ≤ 0xBF := by
    split at most <;> omega
  rw [encodeChar_three (by omega) (by omega) (by omega)]
  congr 4 <;> omega

theorem encoded_four (above : 0xF0 ≤ number) (below : number < 0xF5)
    (read : firstPiece (UInt8.ofNat number) rest = (.char character, length)) :
    Encoded character length (UInt8.ofNat number) rest := by
  unfold firstPiece at read
  rw [continuation?_four above below] at read
  obtain ⟨second, _, rfl, _, least, most, read⟩ := exists_next read
  obtain ⟨third, _, rfl, _, lower, upper, read⟩ := exists_next read
  obtain ⟨fourth, after, rfl, _, bottom, top, read⟩ := exists_next read
  obtain ⟨rfl, rfl⟩ := eq_of_readPiece read
  refine ⟨[UInt8.ofNat second, UInt8.ofNat third, UInt8.ofNat fourth], after, rfl, ?_, rfl⟩
  have bits : startBits 3 (UInt8.ofNat number) = number % 0x08 := by
    simp only [startBits, toNat_byte (show number < 0x100 by omega)]
  rw [bits]
  -- nor is it so low that three bytes were enough, or so high that there is no such character
  simp only [apply_ite UInt8.toNat, UInt8.reduceToNat] at least most lower upper bottom top
  have long : number = 0xF0 ∧ 0x90 ≤ second ∨ number ≠ 0xF0 ∧ 0x80 ≤ second := by
    split at least <;> omega
  have there : number = 0xF4 ∧ second ≤ 0x8F ∨ number ≠ 0xF4 ∧ second ≤ 0xBF := by
    split at most <;> omega
  rw [encodeChar_four (by omega) (by omega)]
  congr 5 <;> omega

end Lengths

/-- **A piece that is a character consists of the bytes of that character.** -/
theorem encoded_of_char (read : firstPiece first rest = (.char character, length)) :
    Encoded character length first rest := by
  have same : first = UInt8.ofNat first.toNat := UInt8.ofNat_toNat.symm
  have small := first.toNat_lt
  generalize first.toNat = number at same small
  subst same
  have starts : continuation? (UInt8.ofNat number) ≠ none := by
    intro none
    unfold firstPiece at read
    rw [none] at read
    cases congrArg Prod.fst read
  by_cases one : number < 0x80
  · exact encoded_one one read
  by_cases odd : number < 0xC2
  · exact absurd (continuation?_eq_none small (.inl ⟨by omega, odd⟩)) starts
  by_cases two : number < 0xE0
  · exact encoded_two (by omega) two read
  by_cases three : number < 0xF0
  · exact encoded_three (by omega) three read
  by_cases four : number < 0xF5
  · exact encoded_four (by omega) four read
  · exact absurd (continuation?_eq_none small (.inr (by omega))) starts

end Pieces

/-! ### Texts -/

section Texts

/-- Where all pieces are characters, the bytes are those of the characters. -/
theorem eq_of_pieces (bytes : Bytes) (characters : List Char)
    (cut : pieces bytes = characters.map .char) :
    bytes = characters.flatMap String.utf8EncodeChar := by
  induction characters generalizing bytes with
  | nil =>
    cases bytes with
    | nil => rfl
    | cons first rest => cases cut
  | cons character others ih =>
    cases bytes with
    | nil => cases cut
    | cons first rest =>
      rw [pieces, piecesFrom, List.map_cons] at cut
      cases read : firstPiece first rest with
      | mk piece length =>
        rw [read] at cut
        obtain ⟨rfl, tail⟩ := List.cons.inj cut
        obtain ⟨behind, after, rfl, encoded, rfl⟩ := encoded_of_char read
        simp only [Nat.add_sub_cancel, piecesFrom_skip] at tail
        rw [List.flatMap_cons, encoded, List.cons_append, ← ih after tail]

/-- What is collected are pieces that are characters. -/
theorem exists_of_collect {position : Nat} {taken : List Char} {cut : List Piece} {text : String}
    (collected : collect position taken cut = .ok text) :
    ∃ characters, cut = characters.map .char
      ∧ text = String.ofList (taken.reverse ++ characters) := by
  induction cut generalizing position taken with
  | nil =>
    rw [collect] at collected
    cases collected
    exact ⟨[], rfl, by rw [List.append_nil]⟩
  | cons piece rest ih =>
    cases piece with
    | damaged bytes damage => cases collected
    | char character =>
      obtain ⟨characters, rfl, rfl⟩ := ih collected
      exact ⟨character :: characters, rfl, by simp⟩

/-- **The bytes that are decoded to a text are its bytes and no others.** -/
theorem decode_eq_ok_iff {bytes : Bytes} {text : String} :
    decode bytes = .ok text ↔ bytes = encode text := by
  constructor
  · intro decoded
    obtain ⟨characters, cut, rfl⟩ := exists_of_collect decoded
    rw [eq_of_pieces bytes characters cut, encode, String.toList_ofList, List.reverse_nil,
      List.nil_append]
  · rintro rfl
    exact decode_encode text

end Texts

end AssetFetch.Text
