/-
**Capitals, as far as they are plain letters.**

Names such as log levels are compared in capitals. All of them consist of plain letters, so the map
gives every character whose capitals consist of plain letters, and leaves each other character as
it is.

* `upperChar`, `upper`: towards capitals, ligatures and the sharp s included.
-/

namespace AssetFetch.Text

/-- The characters outside the plain letters whose capitals are plain letters. -/
def plainCapitals : List (Char × List Char) :=
  [('\u00DF', ['S', 'S']), ('\u0131', ['I']), ('\u017F', ['S']), ('\uFB00', ['F', 'F']),
    ('\uFB01', ['F', 'I']), ('\uFB02', ['F', 'L']), ('\uFB03', ['F', 'F', 'I']),
    ('\uFB04', ['F', 'F', 'L']), ('\uFB05', ['S', 'T']), ('\uFB06', ['S', 'T'])]

/-- The capitals of a character. -/
def upperChar (character : Char) : List Char :=
  match plainCapitals.lookup character with
  | some capitals => capitals
  | none => [character.toUpper]

/-- The text in capitals. -/
def upper (text : String) : String :=
  String.ofList (text.toList.flatMap upperChar)

end AssetFetch.Text
