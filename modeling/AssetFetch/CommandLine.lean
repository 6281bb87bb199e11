/-
**The command line.**

Words are switches, values of switches, or one of the two plain words: a tag and an asset. Both
plain words have to stand in the first run of plain words; any later ones are not recognised.

* `Arguments`: what a command line says;
* `Ending`: how reading a command line may end the program: with help, or with a mistake;
* `expand`: the switches that a word stands for, since short ones may share a hyphen;
* `parseArguments`: the arguments of the words.
-/

import AssetFetch.CommandLine.Switch
import AssetFetch.Given

namespace AssetFetch

open AssetFetch.Text

/-- What a command line says. Assignments are there as soon as one is given, and each of them may
have been left blank. -/
structure Arguments where
  tag : Option String
  asset : Option String
  output : Given Path
  mode : Given Int
  gunzip : Bool
  list : Bool
  tokenUpdate : Bool
  assignments : Option (List (Option (Field × Value)))
  resetSettings : Bool
  verbose : Bool
  deriving Inhabited

namespace CommandLine

/-- A mistake in a command line. -/
inductive Mistake where
  | ambiguous (ambiguity : Ambiguity)
  | needsValue (switch : Switch)
  | needsNoValue (switch : Switch) (value : String)
  | badMode (text : String)
  | badAssignment (fault : AssignmentFault)
  | unrecognized (words : List String)
  deriving DecidableEq, Repr, Inhabited

/-- A mistake about a switch. -/
def aboutSwitch (switch : Switch) (text : String) : String :=
  "argument " ++ switch.label ++ ": " ++ text

/-- The wording of a mistake. -/
def Mistake.message : Mistake → String
  | ambiguous ambiguity =>
    "ambiguous option: " ++ ambiguity.word ++ " could match " ++ ", ".intercalate ambiguity.names
  | needsValue switch => aboutSwitch switch "expected one argument"
  | needsNoValue switch value => aboutSwitch switch ("ignored explicit argument " ++ quoted value)
  | badMode text => aboutSwitch .mode ("invalid octal file mode: " ++ text)
  | badAssignment fault => aboutSwitch .set fault.message
  | unrecognized words => "unrecognized arguments: " ++ " ".intercalate words

/-- How reading a command line may end the program. -/
inductive Ending where
  | help
  | mistake (mistake : Mistake)
  deriving DecidableEq, Repr, Inhabited

/-- What the plain words have been used for: nothing yet, the tag, both, or no more are used. -/
inductive Slots where
  | fresh
  | tagTaken
  | bothTaken
  | shut
  deriving DecidableEq, Repr, Inhabited

/-- The arguments read so far, and the words that were not recognised. -/
structure Reading where
  arguments : Arguments
  slots : Slots
  unrecognized : List String
  deriving Inhabited

/-- No arguments. -/
def noArguments : Arguments :=
  ⟨none, none, .absent, .absent, false, false, false, none, false, false⟩

/-- The reading before the first word. -/
def Reading.start : Reading := ⟨noArguments, .fresh, []⟩

/-! ### Plain words -/

/-- The reading with a word that is not recognised. -/
def Reading.leave (reading : Reading) (word : String) : Reading :=
  { reading with unrecognized := reading.unrecognized ++ [word] }

/-- Reads a plain word. A second separator in the place of the asset stands for no asset. -/
def Reading.plain (reading : Reading) (word : String) : Reading :=
  match reading.slots with
  | .fresh =>
    { reading with arguments := { reading.arguments with tag := some word }, slots := .tagTaken }
  | .tagTaken =>
    let asset := if word == "--" then none else some word
    { reading with arguments := { reading.arguments with asset }, slots := .bothTaken }
  | .bothTaken => { reading.leave word with slots := .shut }
  | .shut => reading.leave word

/-- Reads the separator, which says nothing as long as plain words are used. -/
def Reading.separator (reading : Reading) (word : String) : Reading :=
  match reading.slots with
  | .shut => reading.leave word
  | _ => reading

/-- Ends a run of plain words. -/
def Reading.endRun (reading : Reading) : Reading :=
  match reading.slots with
  | .fresh => reading
  | _ => { reading with slots := .shut }

/-! ### Switches -/

/-- A switch with its value, if it has one. -/
abbrev Setting := Switch × Option String

/-- The switches that short names behind one hyphen stand for, given the first switch and the
characters after its name. The last one may still lack its value. -/
def expandShort (switch : Switch) (behind : List Char) : Except Mistake (List Setting) :=
  match behind with
  | [] => if switch.takesValue then .ok [(switch, some "")] else .error (.needsNoValue switch "")
  | letter :: rest =>
    if switch.takesValue then .ok [(switch, some (String.ofList (letter :: rest)))]
    else
      match Switch.ofName? (String.ofList ['-', letter]) with
      | none => .error (.needsNoValue switch (String.ofList (letter :: rest)))
      | some next =>
        if rest.isEmpty then .ok [(switch, none), (next, none)]
        else (expandShort next rest).map ((switch, none) :: ·)

/-- Whether a name is a short one: a hyphen and one character. -/
def isShort (name : String) : Bool :=
  name.length == 2

/-- The switches that a word stands for. -/
def expand (spelling : Spelling) : Except Mistake (List Setting) :=
  match spelling.value with
  | none => .ok [(spelling.switch, none)]
  | some value =>
    if isShort spelling.name then expandShort spelling.switch value.toList
    else if spelling.switch.takesValue then .ok [(spelling.switch, some value)]
    else .error (.needsNoValue spelling.switch value)

/-- The switch among several that still lacks its value: only the last can. -/
def lacking? (settings : List Setting) : Option Switch :=
  match settings.getLast? with
  | some (switch, none) => if switch.takesValue then some switch else none
  | _ => none

/-- The settings with the value that the last one lacked. -/
def supply (settings : List Setting) (switch : Switch) (value : String) : List Setting :=
  settings.dropLast ++ [(switch, some value)]

/-- The arguments with an assignment added. -/
def withAssignment (arguments : Arguments) (assignment : Option (Field × Value)) : Arguments :=
  { arguments with assignments := some (arguments.assignments.getD [] ++ [assignment]) }

/-- The mark that leaves the place of a value blank when it stands there. -/
def blankMark : String := "--"

/-- The arguments with a blank in the place of a switch's value. -/
def applyBlank (arguments : Arguments) (switch : Switch) : Arguments :=
  match switch with
  | .output => { arguments with output := .blank }
  | .mode => { arguments with mode := .blank }
  | .set => withAssignment arguments none
  | _ => arguments

/-- The arguments with a switch and its value. -/
def applyValue (arguments : Arguments) (switch : Switch) (value : String) :
    Except Ending Arguments :=
  match switch with
  | .help => .error .help
  | .output => .ok { arguments with output := .value (.ofText value) }
  | .mode =>
    match octalNumber? value with
    | some mode => .ok { arguments with mode := .value mode }
    | none => .error (.mistake (.badMode value))
  | .gunzip => .ok { arguments with gunzip := true }
  | .list => .ok { arguments with list := true }
  | .tokenUpdate => .ok { arguments with tokenUpdate := true }
  | .set =>
    match parseAssignment value with
    | .ok assignment => .ok (withAssignment arguments (some assignment))
    | .error fault => .error (.mistake (.badAssignment fault))
  | .resetSettings => .ok { arguments with resetSettings := true }
  | .verbose => .ok { arguments with verbose := true }

/-- The arguments with a switch. -/
def apply (arguments : Arguments) (setting : Setting) : Except Ending Arguments :=
  if setting.1.takesValue && setting.2 == some blankMark then .ok (applyBlank arguments setting.1)
  else applyValue arguments setting.1 (setting.2.getD "")

/-- The reading with switches, from left to right. -/
def Reading.withSettings (reading : Reading) (settings : List Setting) : Except Ending Reading :=
  (settings.foldlM apply reading.arguments).map fun arguments => { reading with arguments }

/-! ### Whole command lines -/

/-- Reads classified words. -/
def readWords (reading : Reading) : List (String × WordKind) → Except Ending Reading
  | [] => .ok reading
  | (word, .plain) :: rest => readWords (reading.plain word) rest
  | (word, .separator) :: rest => readWords (reading.separator word) rest
  | (word, .unknown) :: rest => readWords (reading.endRun.leave word) rest
  | (_, .switch spelling) :: rest =>
    match expand spelling with
    | .error mistake => .error (.mistake mistake)
    | .ok settings =>
      match lacking? settings with
      | none =>
        match reading.endRun.withSettings settings with
        | .error ending => .error ending
        | .ok next => readWords next rest
      | some switch =>
        match rest with
        | (value, .plain) :: later =>
          match reading.endRun.withSettings (supply settings switch value) with
          | .error ending => .error ending
          | .ok next => readWords next later
        | _ => .error (.mistake (.needsValue switch))

/-- The arguments of a reading in which every word was recognised. -/
def Reading.finish (reading : Reading) : Except Ending Arguments :=
  if reading.unrecognized.isEmpty then .ok reading.arguments
  else .error (.mistake (.unrecognized reading.unrecognized))

/-- The arguments of a command line. -/
def parseArguments (words : List String) : Except Ending Arguments :=
  match classifyAll words with
  | .error ambiguity => .error (.mistake (.ambiguous ambiguity))
  | .ok classified =>
    match readWords .start classified with
    | .error ending => .error ending
    | .ok reading => reading.finish

/-- Short switches share a hyphen, and behind the separator a hyphen says nothing. -/
example : (parseArguments ["-vo", "x", "v1", "--", "-a"]).toOption.map
      (fun read => (read.tag, read.asset, read.output, read.verbose)) =
    some (some "v1", some "-a", .value (.ofText "x"), true) := by
  decide +kernel

/-- What is printed about a mistake. -/
def mistakeText (mistake : Mistake) : String :=
  usageText ++ programName ++ ": error: " ++ mistake.message ++ "\n"

end CommandLine

end AssetFetch
