/-
**Quoted text.**

A text is shown between quotes with every character that could mislead a reader escaped.

* `hexDigits`: a number in lower-case base sixteen, padded with zeros;
* `quoteMark`: single quotes, unless the text holds a single quote and no double quote;
* `quoted`: the text between its quotes, with the backslash, the quote itself, tab, line feed,
  carriage return and everything not printable written as escapes;
* `LooseText.quoted`: the same for a text with halves, which are not printable either.
-/

import AssetFetch.Text.Loose
import AssetFetch.Text.Printable

namespace AssetFetch.Text

/-- The base sixteen digit of a number below sixteen. -/
def hexDigit (value : Nat) : Char :=
  if value < 10 then Char.ofNat (0x30 + value) else Char.ofNat (0x57 + value)

/-- The last `width` base sixteen digits of a number, the highest first. -/
def hexDigits : (width : Nat) → (value : Nat) → List Char
  | 0, _ => []
  | width + 1, value => hexDigits width (value / 16) ++ [hexDigit (value % 16)]

/-- The quote that a text is written in. -/
def quoteMark (characters : List Char) : Char :=
  if characters.contains '\'' && !characters.contains '"' then '"' else '\''

/-- A character inside quotes. -/
def quotedChar (mark character : Char) : List Char :=
  if character == mark || character == '\\' then ['\\', character]
  else if character == '\t' then ['\\', 't']
  else if character == '\n' then ['\\', 'n']
  else if character == '\r' then ['\\', 'r']
  else if isPrintable character then [character]
  else if character.toNat < 0x100 then '\\' :: 'x' :: hexDigits 2 character.toNat
  else if character.toNat < 0x10000 then '\\' :: 'u' :: hexDigits 4 character.toNat
  else '\\' :: 'U' :: hexDigits 8 character.toNat

/-- The characters between their quotes. -/
def quotedChars (characters : List Char) : List Char :=
  let mark := quoteMark characters
  mark :: (characters.flatMap (quotedChar mark) ++ [mark])

/-- The text between its quotes. -/
def quoted (text : String) : String :=
  String.ofList (quotedChars text.toList)

/-- A character or a half inside quotes. -/
def quotedLoose (mark : Char) : LooseChar → List Char
  | .char character => quotedChar mark character
  | .half offset => '\\' :: 'u' :: hexDigits 4 (LooseChar.half offset).point

/-- The text between its quotes. -/
def LooseText.quoted (text : LooseText) : String :=
  let mark := quoteMark (text.characters.map LooseChar.shown)
  String.ofList (mark :: (text.characters.flatMap (quotedLoose mark) ++ [mark]))

/-- A lone single quote calls for double quotes. -/
example : quotedChars ['i', '\'', 's', '\n'] = ['"', 'i', '\'', 's', '\\', 'n', '"'] := by decide

end AssetFetch.Text
