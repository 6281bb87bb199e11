/-
**What is given in the place of a value.**

A switch that takes a value may be missing, may have a value, or may have its place marked and left
blank. A blank place is not the same as a missing switch: whoever needs the value fails.

* `Given`: the three cases;
* `Given.value?`, `Given.ofOption`: the value if there is one, and back.
-/

namespace AssetFetch

/-- No place for a value, a place left blank, or a value. -/
inductive Given (α : Type) where
  | absent
  | blank
  | value (value : α)
  deriving DecidableEq, Repr, Inhabited

namespace Given

variable {α : Type}

/-- The value, if there is one. -/
def value? : Given α → Option α
  | value content => some content
  | _ => none

/-- A value, or no place for one. -/
def ofOption : Option α → Given α
  | some content => value content
  | none => absent

end Given

end AssetFetch
