/-
**Paths.**

A path is a number of leading slashes and the names between the slashes. Empty names and single
dots say nothing and are dropped; double dots are kept, since they may cross a link. A path may be
made of any text, but most halves of pairs keep it from being handed to the system.

* `splitOn`: a list cut at every occurrence of an element;
* `Path.ofText`, `Path.text`: paths from and as text;
* `Path.finalName`, `name`, `stem`, `parent`, `child`, `sibling`: parts of a path and paths beside
  it;
* `Path.bytes`, `Path.fileName`: a path and its final name as the system knows them;
* `Path.unnameable?`: what keeps a path from being handed to the system.
-/

import AssetFetch.Text.Quoted

namespace AssetFetch

namespace Text

/-- The stretches between the occurrences of an element, one more than there are occurrences. -/
def splitOn {α : Type} [DecidableEq α] (mark : α) : List α → List (List α)
  | [] => [[]]
  | first :: rest =>
    if first = mark then [] :: splitOn mark rest
    else
      match splitOn mark rest with
      | [] => [[first]]
      | stretch :: others => (first :: stretch) :: others

end Text

open AssetFetch.Text

/-- A path, relative if it has no leading slash. -/
structure Path where
  slashes : Nat
  names : List LooseText
  deriving DecidableEq, Repr, Inhabited

namespace Path

/-- The character between names. -/
def slash : LooseChar := .char '/'

/-- The leading slashes that count: exactly two are kept, more are one. -/
def leadingSlashes (characters : List LooseChar) : Nat :=
  let count := (characters.takeWhile (· == slash)).length
  if count ≤ 2 then count else 1

/-- Whether a name between slashes says anything. -/
def isSignificant (name : LooseText) : Bool :=
  name != "" && name != "."

/-- The path that a text denotes. -/
def ofText (text : LooseText) : Path :=
  ⟨leadingSlashes text.characters,
    ((splitOn slash text.characters).map LooseText.mk).filter isSignificant⟩

/-- The path as text; the empty relative path is a single dot. -/
def looseText (path : Path) : LooseText :=
  if path.slashes == 0 && path.names.isEmpty then "."
  else
    ⟨List.replicate path.slashes slash
      ++ [slash].intercalate (path.names.map LooseText.characters)⟩

/-- The path as it is shown. -/
def text (path : Path) : String :=
  path.looseText.shown

/-- The final name, empty if there is none. -/
def finalName (path : Path) : LooseText :=
  path.names.getLast?.getD ""

/-- The final name as it is shown, empty if there is none. -/
def name (path : Path) : String :=
  (path.names.getLast?.map LooseText.shown).getD ""

/-- The path without its final name. -/
def parent (path : Path) : Path :=
  { path with names := path.names.dropLast }

/-- The path that a text denotes when it is read from this one: an absolute text stands alone. -/
def child (path : Path) (text : LooseText) : Path :=
  let below := ofText text
  if below.slashes > 0 then below else { path with names := path.names ++ below.names }

/-- The path with another final name. -/
def sibling (path : Path) (name : LooseText) : Path :=
  { path with names := path.names.dropLast ++ [name] }

/-- The character before a suffix. -/
def dot : LooseChar := .char '.'

/-- A name without its last suffix. A dot at either end of the name starts no suffix. -/
def stemOf (name : LooseText) : LooseText :=
  let reversed := name.characters.reverse
  let suffix := reversed.takeWhile (· != dot)
  let before := (reversed.dropWhile (· != dot)).drop 1
  if suffix.isEmpty || before.isEmpty then name else ⟨before.reverse⟩

/-- The final name without its last suffix. -/
def stem (path : Path) : LooseText :=
  stemOf path.finalName

/-- The path as it appears in a message about the operating system. -/
def quoted (path : Path) : String :=
  path.looseText.quoted

/-- The bytes of a path when it is handed to the system. -/
def bytes (path : Path) : Bytes :=
  path.looseText.bytes

/-- The final name as the system knows it, empty if there is none. -/
def fileName (path : Path) : FileName :=
  path.finalName.fileName

/-- The halves that keep a path from being handed to the system, if there are any. -/
def unnameable? (path : Path) : Option Unencodable :=
  path.looseText.unnameable?

/-- Exactly two leading slashes are kept, and so are double dots. -/
example : (ofText "//a/./b//../c/").text = "//a/b/../c" := by decide +kernel

/-- Only the last suffix goes, and none from a name that starts or ends with its only dot. -/
example : (["a.tar.gz", ".hidden", "end."].map fun name : String => (stemOf name).shown)
    = ["a.tar", ".hidden", "end."] := by
  decide +kernel

end Path

end AssetFetch
