/-
**Text with halves of pairs.**

Data may spell a character as a pair of units of sixteen bits, and then may also hold one half of a
pair without the other. Such a half is no character, but it is kept and told apart from every other.

* `LooseChar`, `LooseText`: characters and halves, and texts of them;
* `LooseText.ofString`: text without halves;
* `first ++ second`: one text after the other;
* `LooseText.shown`: the text with a replacement character in the place of each half;
* `LooseText.trim`: the text without the blanks at its two ends;
* `LooseText.unencodable?`: the first halves that keep a text from being written as bytes;
* `FileName`, `LooseText.fileName`: the bytes that the system knows a file by, where some halves
  stand for a byte each; `LooseText.unnameable?`: the first halves that stand for none.
-/

import AssetFetch.Text.Blank
import AssetFetch.Text.Utf8

namespace AssetFetch.Text

/-- A character, or half of a pair: the unit that lies `offset` above the first of all halves. -/
inductive LooseChar where
  | char (character : Char)
  | half (offset : Fin 0x800)
  deriving DecidableEq, Repr, Inhabited

/-- The code point of the first of all halves. -/
def firstHalf : Nat := 0xD800

/-- The code point of a character or of a half. -/
def LooseChar.point : LooseChar → Nat
  | char character => character.toNat
  | half offset => firstHalf + offset.val

/-- Whether it is half of a pair. -/
def LooseChar.isHalf : LooseChar → Bool
  | char _ => false
  | half _ => true

/-- The character; a half shows as the replacement character. -/
def LooseChar.shown : LooseChar → Char
  | char character => character
  | half _ => '\uFFFD'

/-- Whether it separates words, which no half does. -/
def LooseChar.isBlank : LooseChar → Bool
  | char character => Text.isBlank character
  | half _ => false

/-- Halves that follow each other: the place of the first, and the offsets of all. -/
structure Unencodable where
  position : Nat
  offsets : List (Fin 0x800)
  deriving DecidableEq, Repr, Inhabited

/-- Characters and halves in a row. -/
structure LooseText where
  characters : List LooseChar
  deriving DecidableEq, Repr, Inhabited

namespace LooseText

/-- A text without halves. -/
def ofString (text : String) : LooseText :=
  ⟨text.toList.map .char⟩

instance : Coe String LooseText := ⟨ofString⟩

instance : Append LooseText := ⟨fun first second => ⟨first.characters ++ second.characters⟩⟩

/-- Whether there is nothing in the text. -/
def isEmpty (text : LooseText) : Bool :=
  text.characters.isEmpty

/-- The text with a replacement character in the place of each half. -/
def shown (text : LooseText) : String :=
  String.ofList (text.characters.map LooseChar.shown)

/-- The text without the blanks at both ends. -/
def trim (text : LooseText) : LooseText :=
  ⟨((text.characters.dropWhile LooseChar.isBlank).reverse.dropWhile LooseChar.isBlank).reverse⟩

/-- The halves at the front, by their offsets. -/
def leadingHalves : List LooseChar → List (Fin 0x800)
  | .half offset :: rest => offset :: leadingHalves rest
  | _ => []

/-- The first halves among characters; `position` counts the characters before them. -/
def firstHalves? (position : Nat) : List LooseChar → Option Unencodable
  | [] => none
  | .char _ :: rest => firstHalves? (position + 1) rest
  | .half offset :: rest => some ⟨position, offset :: leadingHalves rest⟩

/-- The first halves that keep a text from being written as bytes, if there are any. -/
def unencodable? (text : LooseText) : Option Unencodable :=
  firstHalves? 0 text.characters

/-! ### Names of files -/

/-- The byte that a half stands for in the name of a file: bytes from `80` on that are no text are
read as the halves from `U+DC80` to `U+DCFF`. -/
def escapedByte? (offset : Fin 0x800) : Option UInt8 :=
  if 0x480 ≤ offset.val && offset.val < 0x500 then some (offset.val - 0x400).toUInt8 else none

/-- The first halves among characters that the name of a file cannot have, with all that follow
them at once; `position` counts the characters before them. -/
def firstUnnameable? (position : Nat) : List LooseChar → Option Unencodable
  | [] => none
  | .char _ :: rest => firstUnnameable? (position + 1) rest
  | .half offset :: rest =>
    if (escapedByte? offset).isSome then firstUnnameable? (position + 1) rest
    else some ⟨position, offset :: leadingHalves rest⟩

/-- The first halves that keep a text from being the name of a file, if there are any. -/
def unnameable? (text : LooseText) : Option Unencodable :=
  firstUnnameable? 0 text.characters

/-- The bytes of a character or a half in the name of a file. -/
def nameBytes : LooseChar → Bytes
  | .char character => String.utf8EncodeChar character
  | .half offset => (escapedByte? offset).toList

/-- The bytes of a text that is the name of a file, or a row of such names. -/
def bytes (text : LooseText) : Bytes :=
  text.characters.flatMap nameBytes

/-- A text without halves is shown as it is. -/
theorem shown_ofString (text : String) : (ofString text).shown = text := by
  simp [ofString, shown, Function.comp_def, LooseChar.shown]

theorem characters_append (first second : LooseText) :
    (first ++ second).characters = first.characters ++ second.characters := rfl

/-- Texts after each other are shown after each other. -/
theorem shown_append (first second : LooseText) :
    (first ++ second).shown = first.shown ++ second.shown := by
  simp [shown, characters_append]

theorem bytes_append (first second : LooseText) :
    (first ++ second).bytes = first.bytes ++ second.bytes := by
  simp [bytes, characters_append]

/-- The name of a file is written as any text is, where there are no halves. -/
theorem bytes_ofString (text : String) : (ofString text).bytes = encode text := by
  simp [bytes, ofString, encode, List.flatMap_map, nameBytes]

/-- Different texts stay different. -/
theorem ofString_inj {left right : String} : ofString left = ofString right ↔ left = right :=
  ⟨fun equal => by rw [← shown_ofString left, equal, shown_ofString], fun equal => equal ▸ rfl⟩

end LooseText

/-- The name of a file as the system knows it. -/
structure FileName where
  bytes : Bytes
  deriving DecidableEq, Repr, Inhabited

instance : Coe String FileName := ⟨fun text => ⟨encode text⟩⟩

/-- The name of a file that a text is. -/
def LooseText.fileName (text : LooseText) : FileName := ⟨text.bytes⟩

@[simp] theorem LooseText.fileName_ofString (text : String) : (ofString text).fileName = text := by
  rw [fileName, bytes_ofString]

end AssetFetch.Text
