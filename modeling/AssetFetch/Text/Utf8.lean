/-
**Text as bytes.**

The eight-bit encoding of text, and two readers of it that treat damage differently.

* `encode`: the bytes of a text;
* `Piece`, `pieces`: bytes cut into characters and damaged stretches, each stretch as long as it
  could have begun a character;
* `decodeLossy`: each damaged stretch becomes one replacement character;
* `decode`: the text, or the first damaged stretch.
-/

namespace AssetFetch

/-- A sequence of bytes. -/
abbrev Bytes := List UInt8

namespace Text

/-- The bytes of a text. -/
def encode (text : String) : Bytes :=
  text.toList.flatMap String.utf8EncodeChar

/-- What is wrong with a stretch of bytes. -/
inductive Damage where
  | badStart
  | badContinuation
  | endsEarly
  deriving DecidableEq, Repr, Inhabited

/-- The wording of a damage. -/
def Damage.message : Damage → String
  | badStart => "invalid start byte"
  | badContinuation => "invalid continuation byte"
  | endsEarly => "unexpected end of data"

/-- A character, or a damaged stretch. -/
inductive Piece where
  | char (character : Char)
  | damaged (bytes : Bytes) (damage : Damage)
  deriving DecidableEq, Repr, Inhabited

/-- The number of bytes after the first of a character, and the range of the second byte; none
where no character starts with this byte. -/
def continuation? (first : UInt8) : Option (Nat × UInt8 × UInt8) :=
  if first < 0x80 then some (0, 0, 0)
  else if first < 0xC2 then none
  else if first < 0xE0 then some (1, 0x80, 0xBF)
  else if first == 0xE0 then some (2, 0xA0, 0xBF)
  else if first == 0xED then some (2, 0x80, 0x9F)
  else if first < 0xF0 then some (2, 0x80, 0xBF)
  else if first == 0xF0 then some (3, 0x90, 0xBF)
  else if first < 0xF4 then some (3, 0x80, 0xBF)
  else if first == 0xF4 then some (3, 0x80, 0x8F)
  else none

/-- The payload bits of a byte that continues a character. -/
def continuationBits (byte : UInt8) : Nat :=
  byte.toNat % 0x40

/-- The payload bits of a byte that starts a character of `1 + count` bytes. -/
def startBits (count : Nat) (byte : UInt8) : Nat :=
  match count with
  | 0 => byte.toNat
  | 1 => byte.toNat % 0x20
  | 2 => byte.toNat % 0x10
  | _ => byte.toNat % 0x08

/-- Reads `count` further bytes of a character, the next between `low` and `high` and those
after it anywhere in the continuation range. `taken` holds the bytes read so far, last first.
Answers the piece and the number of bytes it takes. -/
def readPiece (taken : Bytes) (value : Nat) :
    (count : Nat) → (low high : UInt8) → Bytes → Piece × Nat
  | 0, _, _, _ => (.char (Char.ofNat value), taken.length)
  | _ + 1, _, _, [] => (.damaged taken.reverse .endsEarly, taken.length)
  | count + 1, low, high, byte :: rest =>
    if low ≤ byte && byte ≤ high then
      readPiece (byte :: taken) (value * 0x40 + continuationBits byte) count 0x80 0xBF rest
    else (.damaged taken.reverse .badContinuation, taken.length)

/-- The first piece of a byte sequence that starts with `first`, and its length. -/
def firstPiece (first : UInt8) (rest : Bytes) : Piece × Nat :=
  match continuation? first with
  | none => (.damaged [first] .badStart, 1)
  | some (count, low, high) => readPiece [first] (startBits count first) count low high rest

/-- Cuts bytes into pieces; `skip` bytes at the front belong to the piece before. -/
def piecesFrom : (skip : Nat) → Bytes → List Piece
  | _, [] => []
  | skip + 1, _ :: rest => piecesFrom skip rest
  | 0, first :: rest =>
    let piece := firstPiece first rest
    piece.1 :: piecesFrom (piece.2 - 1) rest

/-- The pieces of a byte sequence, in order. -/
def pieces (bytes : Bytes) : List Piece :=
  piecesFrom 0 bytes

/-- The text of a byte sequence with a replacement character for each damaged stretch. -/
def decodeLossy (bytes : Bytes) : String :=
  String.ofList ((pieces bytes).map fun
    | .char character => character
    | .damaged _ _ => '\uFFFD')

/-- The first damaged stretch: its position, its bytes and what is wrong. -/
structure Undecodable where
  position : Nat
  bytes : Bytes
  damage : Damage
  deriving DecidableEq, Repr, Inhabited

/-- Collects the characters before the first damage; `position` counts the bytes passed. -/
def collect (position : Nat) (characters : List Char) : List Piece → Except Undecodable String
  | [] => .ok (String.ofList characters.reverse)
  | .char character :: rest =>
    collect (position + character.utf8Size) (character :: characters) rest
  | .damaged bytes damage :: _ => .error ⟨position, bytes, damage⟩

/-- The text of a byte sequence, or where it is damaged first. -/
def decode (bytes : Bytes) : Except Undecodable String :=
  collect 0 [] (pieces bytes)

end Text
end AssetFetch
