/-
**Assignments to settings.**

An assignment is a text `name=value`, which may hold halves of pairs. The value has to fit the
field.

* `AssignmentFault`: why a text is no assignment;
* `secondsOf`: a positive number of seconds;
* `parseAssignment`: the field and its value.
-/

import AssetFetch.Settings
import AssetFetch.Text.Case
import AssetFetch.Text.LowerCase

namespace AssetFetch

open AssetFetch.Text

/-- Why a text is no assignment. -/
inductive AssignmentFault where
  | notAnAssignment (text : LooseText)
  | unknownField (name : LooseText)
  | notSeconds (field : Field)
  | notALevel
  | numeral (fault : NumeralFault)
  deriving DecidableEq, Repr, Inhabited

/-- The levels that may be set. -/
def levelNames : List String :=
  ["DEBUG", "INFO", "WARNING", "ERROR", "CRITICAL"]

/-- The wording of a fault. -/
def AssignmentFault.message : AssignmentFault → String
  | notAnAssignment text => "Expected NAME=VALUE, got " ++ text.quoted
  | unknownField name => "Unknown setting: " ++ name.shown
  | notSeconds field => field.name ++ " must be a positive number of seconds"
  | notALevel => "log_level must be one of " ++ ", ".intercalate levelNames
  | numeral fault => fault.message

/-- A positive number of seconds for a field. A text of digits is read as a number even if some of
them belong to no positional notation. -/
def secondsOf (field : Field) (text : String) : Except AssignmentFault Int :=
  if text.isEmpty || !text.toList.all isDigit then .error (.notSeconds field)
  else
    match decimalNumber text with
    | .error fault => .error (.numeral fault)
    | .ok 0 => .error (.notSeconds field)
    | .ok seconds => .ok seconds

/-- The value of a field in a text without blanks around it. No digit, no level and no letter of
`none` is half of a pair. -/
def parseFieldValue (field : Field) (text : LooseText) : Except AssignmentFault Value :=
  match field with
  | .downloadTimeout =>
    if lower text.shown == "" || lower text.shown == "none" then .ok .null
    else (secondsOf field text.shown).map .int
  | .requestTimeout => (secondsOf field text.shown).map .int
  | .logLevel =>
    if levelNames.contains (upper text.shown) then .ok (.text (upper text.shown))
    else .error .notALevel
  | _ => .ok (.text text)

/-- The items before and after the first one that is equal to a mark, if there is one. -/
def partition? {α : Type} [BEq α] (mark : α) (items : List α) : Option (List α × List α) :=
  if items.contains mark then
    some (items.takeWhile (· != mark), (items.dropWhile (· != mark)).drop 1)
  else none

/-- The parts of a text before and after the first equals sign, if there is one. -/
def splitAssignment? (text : String) : Option (String × String) :=
  (partition? '=' text.toList).map fun parts => (String.ofList parts.1, String.ofList parts.2)

/-- The field and the value of an assignment. No field has half of a pair in its name. -/
def parseAssignment (text : LooseText) : Except AssignmentFault (Field × Value) :=
  match partition? (.char '=') text.characters with
  | none => .error (.notAnAssignment text)
  | some (left, right) =>
    let name := LooseText.trim ⟨left⟩
    if name.isEmpty then .error (.notAnAssignment text)
    else
      match Field.ofName? name.shown with
      | none => .error (.unknownField name)
      | some field =>
        (parseFieldValue field (LooseText.trim ⟨right⟩)).map fun value => (field, value)

end AssetFetch
