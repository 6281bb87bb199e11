/-
**Blank characters.**

A character is blank when it separates words: the white space and separator characters of the
character set, together with the four information separators `U+001C` to `U+001F`.

* `isBlank`: the class;
* `trim`: a text without the blanks at its two ends.
-/

namespace AssetFetch.Text

/-- Whether a code point lies in one of the closed ranges. -/
def inRanges (ranges : List (Nat × Nat)) (point : Nat) : Bool :=
  ranges.any fun range => range.1 ≤ point && point ≤ range.2

/-- The closed ranges of the blank characters. -/
def blankRanges : List (Nat × Nat) :=
  [(0x09, 0x0D), (0x1C, 0x20), (0x85, 0x85), (0xA0, 0xA0), (0x1680, 0x1680), (0x2000, 0x200A),
    (0x2028, 0x2029), (0x202F, 0x202F), (0x205F, 0x205F), (0x3000, 0x3000)]

/-- Whether a character is blank. -/
def isBlank (character : Char) : Bool :=
  inRanges blankRanges character.toNat

/-- The characters without the blanks at both ends. -/
def trimChars (characters : List Char) : List Char :=
  ((characters.dropWhile isBlank).reverse.dropWhile isBlank).reverse

/-- The text without the blanks at both ends. -/
def trim (text : String) : String :=
  String.ofList (trimChars text.toList)

/-- There are twenty-nine blank characters. -/
example : (blankRanges.map fun range => range.2 + 1 - range.1).sum = 29 := by decide

end AssetFetch.Text
