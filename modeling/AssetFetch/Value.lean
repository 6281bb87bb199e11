/-
**Dynamic values.**

Settings files and release descriptions are data of any shape, and the program keeps what it reads
as it is: a setting or a name may turn out to be a number, a list or nothing at all.

* `Value`: null, truth values, whole numbers, floating point numbers, text, lists and records whose
  members keep their order;
* `isTruthy`: whether a value counts as present;
* `equals`: equality of values, in which truth values count as zero and one, numbers compare by
  size and the order of a record's members does not matter;
* `literal`, `loose`, `shown`: a value as text, with and without quotes around a text;
* `isSayable`: whether the numbers in it are short enough for that;
* `depth`: how deep lists and records are nested.
-/

import AssetFetch.Decimal.Shortest

namespace AssetFetch

open AssetFetch.Decimal AssetFetch.Text

/-- Data of any shape. -/
inductive Value where
  | null
  | bool (flag : Bool)
  | int (value : Int)
  | float (value : Binary64)
  | text (characters : LooseText)
  | list (items : List Value)
  | record (members : List (LooseText × Value))
  deriving Inhabited, Repr

namespace Value

/-- The kinds of value. -/
inductive Kind where
  | null
  | bool
  | int
  | float
  | text
  | list
  | record
  deriving DecidableEq, Repr, Inhabited

/-- The kind of a value. -/
def kind : Value → Kind
  | null => .null
  | bool _ => .bool
  | int _ => .int
  | float _ => .float
  | text _ => .text
  | list _ => .list
  | record _ => .record

/-- The name of a kind in messages. -/
def Kind.name : Kind → String
  | null => "NoneType"
  | bool => "bool"
  | int => "int"
  | float => "float"
  | text => "str"
  | list => "list"
  | record => "dict"

/-- Whether a value counts as present: not null, false, zero or empty. -/
def isTruthy : Value → Bool
  | null => false
  | bool flag => flag
  | int value => value != 0
  | float value => !value.isZero
  | text characters => !characters.isEmpty
  | list items => !items.isEmpty
  | record members => !members.isEmpty

/-- The whole number that a truth value counts as. -/
def ofFlag (flag : Bool) : Int :=
  if flag then 1 else 0

/-- Whether two values are no numbers and of the same payload. -/
def sameNotANumber : Value → Value → Bool
  | float (.notANumber left), float (.notANumber right) => left == right
  | _, _ => false

mutual

/-- Whether two values are equal. Not even itself is equal to what is not a number, unless it
stands in a list or a record, where the same payload makes it equal. -/
def equals : Value → Value → Bool
  | null, null => true
  | bool left, bool right => left == right
  | bool left, int right => ofFlag left == right
  | bool left, float right => right.equalsInt (ofFlag left)
  | int left, bool right => left == ofFlag right
  | int left, int right => left == right
  | int left, float right => right.equalsInt left
  | float left, bool right => left.equalsInt (ofFlag right)
  | float left, int right => left.equalsInt right
  | float left, float right => left.equals right
  | text left, text right => left == right
  | list left, list right => equalItems left right
  | record left, record right => left.length == right.length && equalMembers left right
  | _, _ => false

/-- Whether two lists have equal items in the same order. -/
def equalItems : List Value → List Value → Bool
  | [], [] => true
  | left :: lefts, right :: rights =>
    (sameNotANumber left right || equals left right) && equalItems lefts rights
  | _, _ => false

/-- Whether each member has an equal member of the same name among the others. -/
def equalMembers : List (LooseText × Value) → List (LooseText × Value) → Bool
  | [], _ => true
  | (name, value) :: rest, others =>
    (match others.lookup name with
      | some other => sameNotANumber value other || equals value other
      | none => false) && equalMembers rest others

end

mutual

/-- The value as a literal: text in quotes, containers in brackets. -/
def literal : Value → String
  | null => "None"
  | bool flag => if flag then "True" else "False"
  | int value => intText value
  | float value => Decimal.text value
  | text characters => characters.quoted
  | list items => "[" ++ ", ".intercalate (literalItems items) ++ "]"
  | record members => "\x7b" ++ ", ".intercalate (literalMembers members) ++ "\x7d"

/-- The literals of items. -/
def literalItems : List Value → List String
  | [] => []
  | item :: rest => literal item :: literalItems rest

/-- The literals of members, name and value. -/
def literalMembers : List (LooseText × Value) → List String
  | [] => []
  | (name, value) :: rest => (name.quoted ++ ": " ++ literal value) :: literalMembers rest

end

/-- The value inside a message: a text as it is, anything else as a literal. -/
def loose : Value → LooseText
  | text characters => characters
  | other => literal other

/-- The value inside a message, halves of pairs replaced. -/
def shown : Value → String
  | text characters => characters.shown
  | other => literal other

mutual

/-- Whether no whole number in a value has more digits than are ever written. The texts of a value
are those of the program only then. -/
def isSayable : Value → Bool
  | int value => digitCount value ≤ digitLimit
  | list items => areSayable items
  | record members => areSayableMembers members
  | _ => true

/-- Whether all items can be said. -/
def areSayable : List Value → Bool
  | [] => true
  | item :: rest => isSayable item && areSayable rest

/-- Whether the values of all members can be said. -/
def areSayableMembers : List (LooseText × Value) → Bool
  | [] => true
  | (_, value) :: rest => isSayable value && areSayableMembers rest

end

mutual

/-- How deep lists and records are nested in a value. -/
def depth : Value → Nat
  | list items => 1 + depthOfItems items
  | record members => 1 + depthOfMembers members
  | _ => 0

/-- The greatest depth of items. -/
def depthOfItems : List Value → Nat
  | [] => 0
  | item :: rest => max (depth item) (depthOfItems rest)

/-- The greatest depth of the values of members. -/
def depthOfMembers : List (LooseText × Value) → Nat
  | [] => 0
  | (_, value) :: rest => max (depth value) (depthOfMembers rest)

end

/-- The member of a name. -/
def member? (name : LooseText) (members : List (LooseText × Value)) : Option Value :=
  members.lookup name

/-- The member of a name, null where there is none. -/
def memberOrNull (name : LooseText) (members : List (LooseText × Value)) : Value :=
  (member? name members).getD .null

/-- The members with one value replaced, or added at the end. -/
def setMember (name : LooseText) (value : Value) :
    List (LooseText × Value) → List (LooseText × Value)
  | [] => [(name, value)]
  | (key, old) :: rest =>
    if key == name then (name, value) :: rest else (key, old) :: setMember name value rest

end Value

end AssetFetch
