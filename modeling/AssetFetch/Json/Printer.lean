/-
**Writing JSON text.**

A value is written over several lines, two spaces deeper at each nesting, in plain characters only.
A whole number with too many digits cannot be written. The text goes out piece by piece, so what
stands before such a number is written all the same.

* `escapedChars`: a text between double quotes;
* `writes`: the pieces of a value in the order in which they go out;
* `writtenText`, `isComplete`: what goes out, and whether that is all.
-/

import AssetFetch.Value

namespace AssetFetch.Json

open AssetFetch.Text AssetFetch.Decimal

/-- A unit of sixteen bits as an escape. -/
def unitEscape (unit : Nat) : List Char :=
  '\\' :: 'u' :: hexDigits 4 unit

/-- A character inside a written string. -/
def escapedChar (character : Char) : List Char :=
  match character with
  | '"' => ['\\', '"']
  | '\\' => ['\\', '\\']
  | '\n' => ['\\', 'n']
  | '\r' => ['\\', 'r']
  | '\t' => ['\\', 't']
  | '\x08' => ['\\', 'b']
  | '\x0C' => ['\\', 'f']
  | _ =>
    let point := character.toNat
    if 0x20 ≤ point && point ≤ 0x7E then [character]
    else if point < 0x10000 then unitEscape point
    else
      unitEscape (0xD800 + (point - 0x10000) / 0x400)
        ++ unitEscape (0xDC00 + (point - 0x10000) % 0x400)

/-- A character or a half inside a written string. -/
def escapedLoose : LooseChar → List Char
  | .char character => escapedChar character
  | .half offset => unitEscape (LooseChar.half offset).point

/-- Characters and halves between double quotes. -/
def escapedChars (characters : List LooseChar) : List Char :=
  '"' :: (characters.flatMap escapedLoose ++ ['"'])

/-- A text between double quotes. -/
def escaped (text : LooseText) : String :=
  String.ofList (escapedChars text.characters)

/-- A floating point number as text. -/
def floatText : Binary64 → String
  | .notANumber _ => "NaN"
  | .infinite negative => if negative then "-Infinity" else "Infinity"
  | value => Decimal.text value

/-- A line break and the indentation of a nesting level. -/
def lineBreak (level : Nat) : String :=
  String.ofList ('\n' :: List.replicate (2 * level) ' ')

/-- A piece that goes out as a whole: a text, or a whole number after a lead. -/
inductive Write where
  | text (characters : String)
  | number (lead : String) (value : Int)
  deriving DecidableEq, Repr, Inhabited

mutual

/-- The pieces of a value at a nesting level; `lead` goes out together with a value that is no
container. -/
def writes (level : Nat) (lead : String) : Value → List Write
  | .null => [.text (lead ++ "null")]
  | .bool flag => [.text (lead ++ if flag then "true" else "false")]
  | .int value => [.number lead value]
  | .float value => [.text (lead ++ floatText value)]
  | .text characters => [.text (lead ++ escaped characters)]
  | .list [] => [.text (lead ++ "[]")]
  | .list (item :: items) =>
    .text lead :: (writes (level + 1) ("[" ++ lineBreak (level + 1)) item
      ++ writesOfItems (level + 1) items ++ [.text (lineBreak level ++ "]")])
  | .record [] => [.text (lead ++ "\x7b\x7d")]
  | .record ((name, value) :: members) =>
    .text (lead ++ "\x7b" ++ lineBreak (level + 1) ++ escaped name ++ ": ")
      :: (writes (level + 1) "" value ++ writesOfMembers (level + 1) members
        ++ [.text (lineBreak level ++ "\x7d")])

/-- The pieces of the items after the first. -/
def writesOfItems (level : Nat) : List Value → List Write
  | [] => []
  | item :: items => writes level ("," ++ lineBreak level) item ++ writesOfItems level items

/-- The pieces of the members after the first. -/
def writesOfMembers (level : Nat) : List (LooseText × Value) → List Write
  | [] => []
  | (name, value) :: members =>
    .text ("," ++ lineBreak level ++ escaped name ++ ": ")
      :: (writes level "" value ++ writesOfMembers level members)

end

/-- The text of a piece, unless it is a number with too many digits. -/
def Write.text? : Write → Option String
  | .text characters => some characters
  | .number lead value =>
    if digitCount value ≤ digitLimit then some (lead ++ intText value) else none

/-- The text that goes out: everything before the first piece that cannot be written. -/
def writtenText : List Write → String
  | [] => ""
  | piece :: rest =>
    match piece.text? with
    | some characters => characters ++ writtenText rest
    | none => ""

/-- Whether every piece can be written. -/
def isComplete (pieces : List Write) : Bool :=
  pieces.all fun piece => piece.text?.isSome

/-- Two spaces for each nesting, plain characters only, and nothing between empty brackets. -/
example : writtenText (writes 0 "" (.record [("é\n", .list [.int 1, .list []])])) =
    "\x7b\n  \"\\u00e9\\n\": [\n    1,\n    []\n  ]\n\x7d" := by
  decide +kernel

end AssetFetch.Json
