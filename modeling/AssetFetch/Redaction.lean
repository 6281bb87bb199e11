/-
**Hiding secrets in log lines.**

A line passes through four rules, one after the other. Each goes through the text from left to
right and writes a marker in place of every secret it recognises.

* `Rule`: what a rule recognises at a place, how much of it is kept and how much it takes;
* `accessToken`, `finegrainedToken`, `authorization`, `pair`: the rules;
* `redact`: a text after all of them.
-/

import AssetFetch.Text.Case
import AssetFetch.Text.Blank

namespace AssetFetch.Redaction

open AssetFetch.Text

/-- What stands in place of a secret. -/
def marker : List Char :=
  "[REDACTED]".toList

/-! ### Recognising -/

/-- What a rule recognises at the front of a text: the number of characters before the secret, and
with it. -/
structure Match where
  kept : Nat
  size : Nat
  deriving DecidableEq, Repr, Inhabited

/-- What a rule recognises at the front of a text. -/
abbrev Rule := List Char → Option Match

/-- A reader of a part at the front of a text, which answers what follows it. -/
abbrev PartReader := List Char → Option (List Char)

/-- Whether a character is a letter in any case: the letters `k` and `s` have one more form, the
letter `i` two more. -/
def isLetter (letter character : Char) : Bool :=
  character.toLower == letter
    || (letter == 'k' && character == '\u212A')
    || (letter == 's' && character == '\u017F')
    || (letter == 'i' && (character == '\u0130' || character == '\u0131'))

/-- Reads a word given in small letters, in any case. -/
def wordInAnyCase : (word : List Char) → PartReader
  | [], characters => some characters
  | _ :: _, [] => none
  | letter :: word, character :: rest =>
    if isLetter letter character then wordInAnyCase word rest else none

/-- Reads characters exactly. -/
def exactly : (word : List Char) → PartReader
  | [], characters => some characters
  | _ :: _, [] => none
  | letter :: word, character :: rest =>
    if letter == character then exactly word rest else none

/-- Whether a character is a quote. -/
def isQuote (character : Char) : Bool :=
  character == '"' || character == '\''

/-- What follows a quote, or everything if there is none. -/
def afterQuote : List Char → List Char
  | [] => []
  | character :: rest => if isQuote character then rest else character :: rest

/-- Reads a colon or an equals sign. -/
def separator : PartReader
  | [] => none
  | character :: rest => if character == ':' || character == '=' then some rest else none

/-- Reads what stands between a key and its value: quotes, blanks and a separator. -/
def betweenKeyAndValue : PartReader := fun characters =>
  (separator ((afterQuote characters).dropWhile isBlank)).map fun rest =>
    afterQuote (rest.dropWhile isBlank)

/-- Reads at least one blank. -/
def blanks : PartReader := fun characters =>
  let rest := characters.dropWhile isBlank
  if rest.length < characters.length then some rest else none

/-- Whether a character may belong to a value: neither blank nor a comma, a quote or a closing
bracket or brace. -/
def isValueChar (character : Char) : Bool :=
  !(isBlank character || character == ',' || isQuote character || character == '\x7d'
    || character == ']')

/-- The match of a value that starts at `rest` within a text. -/
def valueMatch (characters rest : List Char) : Option Match :=
  let value := rest.takeWhile isValueChar
  if value.isEmpty then none
  else
    let kept := characters.length - rest.length
    some ⟨kept, kept + value.length⟩

/-- Whether a character is a plain letter or a plain digit. -/
def isPlainAlphanumeric (character : Char) : Bool :=
  ('0' ≤ character && character ≤ '9') || ('A' ≤ character && character ≤ 'Z')
    || ('a' ≤ character && character ≤ 'z')

/-- The least length of the part of a token after its mark. -/
def leastTokenLength : Nat := 20

/-- The match of a token whose part after the mark starts at `rest` within a text. -/
def tokenMatch (isPart : Char → Bool) (characters rest : List Char) : Option Match :=
  let body := rest.takeWhile isPart
  if body.length < leastTokenLength then none
  else some ⟨0, characters.length - rest.length + body.length⟩

/-! ### The rules -/

/-- The letters of the kinds of access token. -/
def tokenKinds : List Char := ['p', 'o', 'u', 's', 'r']

/-- Access tokens: `gh`, a letter for the kind, an underscore, letters and digits. -/
def accessToken : Rule
  | 'g' :: 'h' :: kind :: '_' :: rest =>
    if tokenKinds.contains kind then
      tokenMatch isPlainAlphanumeric ('g' :: 'h' :: kind :: '_' :: rest) rest
    else none
  | _ => none

/-- Access tokens with limited rights: `github_pat_`, letters, digits and underscores. -/
def finegrainedToken : Rule := fun characters => do
  let rest ← exactly "github_pat_".toList characters
  tokenMatch (fun character => isPlainAlphanumeric character || character == '_') characters rest

/-- Values of the authorization header behind the word for their scheme. -/
def authorization : Rule := fun characters => do
  let afterKey ← wordInAnyCase "authorization".toList characters
  let scheme ← betweenKeyAndValue afterKey
  let afterScheme ← (wordInAnyCase "token".toList scheme).or (wordInAnyCase "bearer".toList scheme)
  let rest ← blanks afterScheme
  valueMatch characters rest

/-- Values of the keys `token` and `password`, unless the marker stands there already. -/
def pair : Rule := fun characters => do
  let afterKey ← (wordInAnyCase "token".toList characters).or
    (wordInAnyCase "password".toList characters)
  let rest ← betweenKeyAndValue afterKey
  if (wordInAnyCase "[redacted]".toList rest).isSome then none
  else valueMatch characters rest

/-- The rules in their order. -/
def rules : List Rule :=
  [accessToken, finegrainedToken, authorization, pair]

/-! ### Replacing -/

/-- The text with the marker in place of every secret that a rule recognises; `skip` characters at
the front belong to the secret before. -/
def replace (rule : Rule) : (skip : Nat) → List Char → List Char
  | _, [] => []
  | skip + 1, _ :: rest => replace rule skip rest
  | 0, character :: rest =>
    match rule (character :: rest) with
    | some found =>
      (character :: rest).take found.kept ++ marker ++ replace rule (found.size - 1) rest
    | none => character :: replace rule 0 rest

/-- The characters with every secret hidden. -/
def redactChars (characters : List Char) : List Char :=
  rules.foldl (fun text rule => replace rule 0 text) characters

/-- The text with every secret hidden. -/
def redact (text : String) : String :=
  String.ofList (redactChars text.toList)

/-- A secret goes and its quotes stay; the marker itself is no secret. -/
example : redact "password='abc', token: [REDACTED]" =
    "password='[REDACTED]', token: [REDACTED]" := by
  decide +kernel

end AssetFetch.Redaction
