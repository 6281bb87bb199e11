/-
**Switches of the command line.**

* `Switch`: the switches, with their names and whether they take a value;
* `Spelling`: how a word of the command line spells a switch;
* `classify`: whether a word is a switch, and which one;
* `usageText`, `helpText`: what is printed about them.
-/

import AssetFetch.Settings.Assignment

namespace AssetFetch

open AssetFetch.Text

/-- The switches. -/
inductive Switch where
  | help
  | output
  | mode
  | gunzip
  | list
  | tokenUpdate
  | set
  | resetSettings
  | verbose
  deriving DecidableEq, Repr, Inhabited

namespace Switch

/-- All switches in their order. -/
def all : List Switch :=
  [help, output, mode, gunzip, list, tokenUpdate, set, resetSettings, verbose]

/-- The names of a switch. -/
def names : Switch → List String
  | help => ["-h", "--help"]
  | output => ["-o", "--output"]
  | mode => ["--mode"]
  | gunzip => ["--gunzip"]
  | list => ["--list"]
  | tokenUpdate => ["--token-update"]
  | set => ["--set"]
  | resetSettings => ["--reset-settings"]
  | verbose => ["-v", "--verbose"]

/-- Whether a switch takes a value. -/
def takesValue : Switch → Bool
  | output => true
  | mode => true
  | set => true
  | _ => false

/-- What a switch is called in messages. -/
def label (switch : Switch) : String :=
  "/".intercalate switch.names

/-- Every name with its switch. -/
def named : List (String × Switch) :=
  all.flatMap fun switch => switch.names.map fun name => (name, switch)

/-- The switch of a name. -/
def ofName? (name : String) : Option Switch :=
  named.lookup name

end Switch

/-! ### Words -/

/-- How a word spells a switch: the switch, its name, and the value within the word. -/
structure Spelling where
  switch : Switch
  name : String
  value : Option String
  deriving DecidableEq, Repr, Inhabited

/-- What a word of the command line is. -/
inductive WordKind where
  | plain
  | separator
  | switch (spelling : Spelling)
  | unknown
  deriving DecidableEq, Repr, Inhabited

/-- A word that may mean several switches. -/
structure Ambiguity where
  word : String
  names : List String
  deriving DecidableEq, Repr, Inhabited

/-- Whether a word is written like a negative number. -/
def isNegativeNumber (characters : List Char) : Bool :=
  let unended := if characters.getLast? == some '\n' then characters.dropLast else characters
  match unended with
  | '-' :: rest =>
    let fraction := rest.dropWhile isDecimalDigit
    match fraction with
    | [] => !rest.isEmpty
    | '.' :: digits => !digits.isEmpty && digits.all isDecimalDigit
    | _ => false
  | _ => false

/-- The part of a word before the first equals sign, and the part after it. -/
def splitWord (word : String) : String × Option String :=
  match splitAssignment? word with
  | some (name, value) => (name, some value)
  | none => (word, none)

/-- The switches that a word may spell other than by a whole name: a long name may be cut short,
and the value of a short name may follow it at once. -/
def spellings (word : String) : List Spelling :=
  match word.toList with
  | '-' :: '-' :: _ =>
    let parts := splitWord word
    (Switch.named.filter fun entry => parts.1.toList.isPrefixOf entry.1.toList).map fun entry =>
      ⟨entry.2, entry.1, parts.2⟩
  | '-' :: letter :: rest =>
    (Switch.named.filter fun entry => entry.1 == String.ofList ['-', letter]).map fun entry =>
      ⟨entry.2, entry.1, some (String.ofList rest)⟩
  | _ => []

/-- What a word is that is not spelled like any switch: numbers and words with a space in them are
no switches even behind a hyphen. -/
def classifyRest (characters : List Char) : WordKind :=
  if isNegativeNumber characters || characters.contains ' ' then .plain else .unknown

/-- What a word is that starts with a hyphen and has more characters, and no whole name before an
equals sign. -/
def classifyByPart (word : String) : Except Ambiguity WordKind :=
  match spellings word with
  | [] => .ok (classifyRest word.toList)
  | [spelling] => .ok (.switch spelling)
  | several => .error ⟨word, several.map Spelling.name⟩

/-- What a word is. -/
def classify (word : String) : Except Ambiguity WordKind :=
  if word == "--" then .ok .separator
  else if word.toList.head? != some '-' then .ok .plain
  else
    match Switch.ofName? word with
    | some switch => .ok (.switch ⟨switch, word, none⟩)
    | none =>
      if word == "-" then .ok .plain
      else
        let parts := splitWord word
        match parts.2, Switch.ofName? parts.1 with
        | some value, some switch => .ok (.switch ⟨switch, parts.1, some value⟩)
        | _, _ => classifyByPart word

/-- What the words are; behind the separator every word is plain. -/
def classifyAll : List String → Except Ambiguity (List (String × WordKind))
  | [] => .ok []
  | word :: rest =>
    match classify word with
    | .error ambiguity => .error ambiguity
    | .ok .separator => .ok ((word, .separator) :: rest.map fun later => (later, .plain))
    | .ok kind => (classifyAll rest).map ((word, kind) :: ·)

/-! ### Texts -/

/-- How the program is called. -/
def programName : String := "move-release-fetcher"

/-- How the program is used, in short. -/
def usageText : String :=
  "usage: move-release-fetcher [-h] [-o OUTPUT] [--mode MODE] [--gunzip] [--list]\n"
    ++ "                            [--token-update] [--set NAME=VALUE]\n"
    ++ "                            [--reset-settings] [-v]\n"
    ++ "                            [tag] [asset]\n"

/-- How the program is used. -/
def helpText : String :=
  usageText
    ++ "\n"
    ++ "Download a move-tools release asset from GitHub.\n"
    ++ "\n"
    ++ "positional arguments:\n"
    ++ "  tag                   release tag (default from settings)\n"
    ++ "  asset                 asset name (default from settings)\n"
    ++ "\n"
    ++ "options:\n"
    ++ "  -h, --help            show this help message and exit\n"
    ++ "  -o OUTPUT, --output OUTPUT\n"
    ++ "                        destination file (default: <download dir>/<asset>)\n"
    ++ "  --mode MODE           file mode for the downloaded file, in octal (e.g. 755)\n"
    ++ "  --gunzip              decompress a gzip-compressed asset while downloading\n"
    ++ "  --list                list the release's assets instead of downloading\n"
    ++ "  --token-update        store a new Github auth token and exit\n"
    ++ "  --set NAME=VALUE      save a default (e.g. release_tag=2021-03-15) and exit;\n"
    ++ "                        repeatable\n"
    ++ "  --reset-settings      restore default settings and exit, applied before\n"
    ++ "                        --set\n"
    ++ "  -v, --verbose         debug logging\n"

end AssetFetch
