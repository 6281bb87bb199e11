/-
**Encoded text is decoded to itself.**

* `continuation?_two`, `continuation?_three`, `continuation?_four`: what a first byte says of the
  bytes behind it;
* `readPiece_next`: one more byte of a character;
* `firstPiece_one`, `firstPiece_two`, `firstPiece_three`, `firstPiece_four`,
  `firstPiece_encoded`: **the bytes of a character are one piece**, whatever follows them;
* `decode_encode`: a text is decoded from its bytes.
-/

import AssetFetch.Text.Utf8

namespace AssetFetch.Text

/-! ### Bytes -/

section Bytes

variable {number : Nat} {taken rest : Bytes} {value count : Nat} {low high : UInt8}

theorem toNat_byte (small : number < 0x100) : (UInt8.ofNat number).toNat = number := by
  rw [UInt8.toNat_ofNat']
  omega

/-- Bytes are the same as their numbers are. -/
theorem byte_beq (small : number < 0x100) (other : UInt8) :
    (UInt8.ofNat number == other) = (number == other.toNat) := by
  rw [Bool.eq_iff_iff, beq_iff_eq, beq_iff_eq, ← UInt8.toNat_inj, toNat_byte small]

theorem continuation?_one (below : number < 0x80) :
    continuation? (UInt8.ofNat number) = some (0, 0, 0) := by
  have first : UInt8.ofNat number < 0x80 := by
    rw [UInt8.lt_iff_toNat_lt, toNat_byte (by omega)]
    exact below
  exact if_pos first

/-- The first byte of two. -/
theorem continuation?_two (above : 0xC2 ≤ number) (below : number < 0xE0) :
    continuation? (UInt8.ofNat number) = some (1, 0x80, 0xBF) := by
  have same := toNat_byte (show number < 0x100 by omega)
  simp only [continuation?, UInt8.lt_iff_toNat_lt, same, UInt8.reduceToNat]
  rw [if_neg (by omega), if_neg (by omega), if_pos (by omega)]

/-- The first byte of three, and the range of the second: some of it would be too small, and some a
half of a pair. -/
theorem continuation?_three (above : 0xE0 ≤ number) (below : number < 0xF0) :
    continuation? (UInt8.ofNat number)
      = some (2, if number = 0xE0 then 0xA0 else 0x80, if number = 0xED then 0x9F else 0xBF) := by
  have small : number < 0x100 := by omega
  simp only [continuation?, UInt8.lt_iff_toNat_lt, toNat_byte small, byte_beq small,
    UInt8.reduceToNat, beq_iff_eq]
  rw [if_neg (by omega), if_neg (by omega), if_neg (by omega)]
  by_cases first : number = 0xE0
  · rw [if_pos first, if_pos first, if_neg (by omega)]
  · by_cases half : number = 0xED
    · rw [if_neg first, if_pos half, if_neg first, if_pos half]
    · rw [if_neg first, if_neg half, if_pos below, if_neg first, if_neg half]

/-- The first byte of four, and the range of the second: some of it would be too small, and some
too large. -/
theorem continuation?_four (above : 0xF0 ≤ number) (below : number < 0xF5) :
    continuation? (UInt8.ofNat number)
      = some (3, if number = 0xF0 then 0x90 else 0x80, if number = 0xF4 then 0x8F else 0xBF) := by
  have small : number < 0x100 := by omega
  simp only [continuation?, UInt8.lt_iff_toNat_lt, toNat_byte small, byte_beq small,
    UInt8.reduceToNat, beq_iff_eq]
  rw [if_neg (by omega), if_neg (by omega), if_neg (by omega), if_neg (by omega), if_neg (by omega),
    if_neg (by omega)]
  by_cases first : number = 0xF0
  · rw [if_pos first, if_pos first, if_neg (by omega)]
  · by_cases last : number = 0xF4
    · rw [if_neg first, if_neg (by omega), if_pos last, if_neg first, if_pos last]
    · rw [if_neg first, if_pos (by omega), if_neg first, if_neg last]

/-- One more byte of a character. -/
theorem readPiece_next (least : low.toNat ≤ number) (most : number ≤ high.toNat) :
    readPiece taken value (count + 1) low high (UInt8.ofNat number :: rest)
      = readPiece (UInt8.ofNat number :: taken) (value * 0x40 + number % 0x40) count 0x80 0xBF
          rest := by
  have small : number < 0x100 := Nat.lt_of_le_of_lt most (UInt8.toNat_lt high)
  have within : (decide (low ≤ UInt8.ofNat number) && decide (UInt8.ofNat number ≤ high))
      = true := by
    rw [Bool.and_eq_true, decide_eq_true_eq, decide_eq_true_eq, UInt8.le_iff_toNat_le,
      UInt8.le_iff_toNat_le, toNat_byte small]
    exact ⟨least, most⟩
  rw [readPiece, if_pos within, continuationBits, toNat_byte small]

end Bytes

/-! ### Characters -/

section Characters

/-- The number of a character is no half of a pair. -/
theorem point_apart (character : Char) :
    character.toNat < 0xD800 ∨ (0xE000 ≤ character.toNat ∧ character.toNat < 0x110000) := by
  have number : character.toNat = character.val.toNat := rfl
  rcases character.valid with low | ⟨high, bound⟩
  · exact .inl low
  · exact .inr ⟨by omega, bound⟩

variable {point : Nat} (rest : Bytes)

theorem firstPiece_one (below : point ≤ 0x7F) :
    firstPiece (UInt8.ofNat point) rest = (.char (Char.ofNat point), 1) := by
  have first := continuation?_one (show point < 0x80 by omega)
  have byte := toNat_byte (show point < 0x100 by omega)
  simp only [firstPiece, first, readPiece, startBits, byte, List.length_singleton]

theorem firstPiece_two (above : 0x7F < point) (below : point ≤ 0x7FF) :
    firstPiece (UInt8.ofNat (point / 64 % 0x20 + 0xC0))
      (UInt8.ofNat (point % 0x40 + 0x80) :: rest) = (.char (Char.ofNat point), 2) := by
  have first := continuation?_two (show 0xC2 ≤ point / 64 % 0x20 + 0xC0 by omega) (by omega)
  have byte := toNat_byte (show point / 64 % 0x20 + 0xC0 < 0x100 by omega)
  have bits : (point / 64 % 0x20 + 0xC0) % 0x20 * 0x40 + (point % 0x40 + 0x80) % 0x40
      = point := by omega
  simp only [firstPiece, first, startBits, byte]
  rw [readPiece_next (by simp) (by simp; omega), readPiece, bits]
  rfl

/-- Of three bytes, none spells a half of a pair. -/
theorem firstPiece_three (above : 0x7FF < point) (below : point ≤ 0xFFFF)
    (apart : point < 0xD800 ∨ 0xE000 ≤ point) :
    firstPiece (UInt8.ofNat (point / 4096 % 0x10 + 0xE0))
        (UInt8.ofNat (point / 64 % 0x40 + 0x80) :: UInt8.ofNat (point % 0x40 + 0x80) :: rest)
      = (.char (Char.ofNat point), 3) := by
  have first := continuation?_three (show 0xE0 ≤ point / 4096 % 0x10 + 0xE0 by omega) (by omega)
  have byte := toNat_byte (show point / 4096 % 0x10 + 0xE0 < 0x100 by omega)
  have bits : ((point / 4096 % 0x10 + 0xE0) % 0x10 * 0x40 + (point / 64 % 0x40 + 0x80) % 0x40)
      * 0x40 + (point % 0x40 + 0x80) % 0x40 = point := by omega
  have least : (if point / 4096 % 0x10 + 0xE0 = 0xE0 then 0xA0 else 0x80 : UInt8).toNat
      ≤ point / 64 % 0x40 + 0x80 := by
    split
    · show 0xA0 ≤ _
      omega
    · show 0x80 ≤ _
      omega
  have most : point / 64 % 0x40 + 0x80
      ≤ (if point / 4096 % 0x10 + 0xE0 = 0xED then 0x9F else 0xBF : UInt8).toNat := by
    split
    · show _ ≤ 0x9F
      omega
    · show _ ≤ 0xBF
      omega
  simp only [firstPiece, first, startBits, byte]
  rw [readPiece_next least most,
    readPiece_next (by simp) (by simp; omega), readPiece, bits]
  rfl

theorem firstPiece_four (above : 0xFFFF < point) (below : point < 0x110000) :
    firstPiece (UInt8.ofNat (point / 262144 % 0x08 + 0xF0))
        (UInt8.ofNat (point / 4096 % 0x40 + 0x80) :: UInt8.ofNat (point / 64 % 0x40 + 0x80)
          :: UInt8.ofNat (point % 0x40 + 0x80) :: rest) = (.char (Char.ofNat point), 4) := by
  have first := continuation?_four (show 0xF0 ≤ point / 262144 % 0x08 + 0xF0 by omega) (by omega)
  have byte := toNat_byte (show point / 262144 % 0x08 + 0xF0 < 0x100 by omega)
  have bits : (((point / 262144 % 0x08 + 0xF0) % 0x08 * 0x40 + (point / 4096 % 0x40 + 0x80) % 0x40)
      * 0x40 + (point / 64 % 0x40 + 0x80) % 0x40) * 0x40 + (point % 0x40 + 0x80) % 0x40
      = point := by omega
  have least : (if point / 262144 % 0x08 + 0xF0 = 0xF0 then 0x90 else 0x80 : UInt8).toNat
      ≤ point / 4096 % 0x40 + 0x80 := by
    split
    · show 0x90 ≤ _
      omega
    · show 0x80 ≤ _
      omega
  have most : point / 4096 % 0x40 + 0x80
      ≤ (if point / 262144 % 0x08 + 0xF0 = 0xF4 then 0x8F else 0xBF : UInt8).toNat := by
    split
    · show _ ≤ 0x8F
      omega
    · show _ ≤ 0xBF
      omega
  simp only [firstPiece, first, startBits, byte]
  rw [readPiece_next least most,
    readPiece_next (by simp) (by simp; omega), readPiece_next (by simp) (by simp; omega), readPiece,
    bits]
  rfl

/-- **The bytes of a character are one piece**, whatever follows them. -/
theorem firstPiece_encoded (character : Char) :
    ∃ first others, String.utf8EncodeChar character = first :: others
      ∧ firstPiece first (others ++ rest) = (.char character, others.length + 1) := by
  have number : character.val.toNat = character.toNat := rfl
  have apart := point_apart character
  have whole : Char.ofNat character.toNat = character := Char.ofNat_toNat character
  unfold String.utf8EncodeChar
  simp only [number]
  generalize character.toNat = point at apart whole ⊢
  subst whole
  by_cases one : point ≤ 0x7F
  · rw [if_pos one]
    exact ⟨_, _, rfl, firstPiece_one rest one⟩
  rw [if_neg one]
  by_cases two : point ≤ 0x7FF
  · rw [if_pos two]
    exact ⟨_, _, rfl, firstPiece_two rest (by omega) two⟩
  rw [if_neg two]
  by_cases three : point ≤ 0xFFFF
  · rw [if_pos three]
    exact ⟨_, _, rfl, firstPiece_three rest (by omega) three (by omega)⟩
  rw [if_neg three]
  exact ⟨_, _, rfl, firstPiece_four rest (by omega) (by omega)⟩

end Characters

/-! ### Texts -/

section Texts

theorem piecesFrom_skip (front rest : Bytes) :
    piecesFrom front.length (front ++ rest) = piecesFrom 0 rest := by
  induction front with
  | nil => rfl
  | cons first front ih => exact ih

/-- The pieces of encoded characters are the characters. -/
theorem pieces_encoded (characters : List Char) :
    pieces (characters.flatMap String.utf8EncodeChar) = characters.map .char := by
  induction characters with
  | nil => rfl
  | cons character characters ih =>
    obtain ⟨first, others, bytes, piece⟩ :=
      firstPiece_encoded (characters.flatMap String.utf8EncodeChar) character
    rw [List.flatMap_cons, bytes, List.cons_append, pieces, piecesFrom]
    simp only [piece, Nat.add_sub_cancel, piecesFrom_skip]
    rw [List.map_cons]
    exact congrArg _ ih

theorem collect_chars (position : Nat) (taken characters : List Char) :
    collect position taken (characters.map .char)
      = .ok (String.ofList (taken.reverse ++ characters)) := by
  induction characters generalizing position taken with
  | nil => rw [List.map_nil, collect, List.append_nil]
  | cons character characters ih =>
    rw [List.map_cons, collect, ih, List.reverse_cons, List.append_assoc, List.singleton_append]

/-- **A text is decoded from its bytes.** -/
theorem decode_encode (text : String) : decode (encode text) = .ok text := by
  rw [decode, encode, pieces_encoded, collect_chars, List.reverse_nil, List.nil_append,
    String.ofList_toList]

/-- Different texts have different bytes. -/
theorem encode_injective {left right : String} (same : encode left = encode right) :
    left = right := by
  have decoded := congrArg decode same
  rw [decode_encode, decode_encode] at decoded
  exact Except.ok.inj decoded

theorem decodeLossy_encode (text : String) : decodeLossy (encode text) = text := by
  rw [decodeLossy, encode, pieces_encoded, List.map_map]
  exact (congrArg String.ofList (List.map_id text.toList)).trans (String.ofList_toList ..)

end Texts

end AssetFetch.Text
