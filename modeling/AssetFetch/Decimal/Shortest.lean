/-
**The shortest decimal text of a number.**

A number is written with the fewest significant digits that read back to it, and of those digits
with the ones nearest to it.

* `readsBack`: whether a decimal lies in the interval of values that round to a number;
* `shortestDecimal`: the digits and their power of ten;
* `Layout`: where positional writing ends and how the exponent is written;
* `text`: the number in the layout of this program's output.
-/

import AssetFetch.Decimal.Binary64
import AssetFetch.Text.Numeral

namespace AssetFetch.Decimal

open AssetFetch.Text

/-- `digits · 10 ^ scale` against `count · 2 ^ exponent`, as two whole numbers of one unit. -/
def commonUnit (digits : Nat) (scale : Int) (count : Nat) (exponent : Int) : Nat × Nat :=
  let left := if scale < 0 then digits else digits * Nat.pow 10 scale.natAbs
  let right := if scale < 0 then count * Nat.pow 10 scale.natAbs else count
  if exponent < 0 then (left * Nat.pow 2 exponent.natAbs, right)
  else (left, right * Nat.pow 2 exponent.natAbs)

/-- Whether `digits · 10 ^ scale` rounds to `mantissa · 2 ^ exponent`: it lies between the
midpoints to the two neighbours, and at a midpoint the mantissa is even. Below a power of two the
neighbour is half as far. -/
def readsBack (mantissa : Nat) (exponent : Int) (digits : Nat) (scale : Int) : Bool :=
  let narrow := mantissa == Binary64.leastNormal && exponent > Binary64.leastExponent
  let low := if narrow then 4 * mantissa - 1 else 4 * mantissa - 2
  let high := 4 * mantissa + 2
  let toLow := commonUnit digits scale low (exponent - 2)
  let toHigh := commonUnit digits scale high (exponent - 2)
  if mantissa % 2 == 0 then toLow.2 ≤ toLow.1 && toHigh.1 ≤ toHigh.2
  else toLow.2 < toLow.1 && toHigh.1 < toHigh.2

/-- The number divided by `10 ^ scale`, rounded down. -/
def gridFloor (mantissa : Nat) (exponent scale : Int) : Nat :=
  let numerator := if exponent < 0 then mantissa else mantissa * Nat.pow 2 exponent.natAbs
  let denominator := if exponent < 0 then Nat.pow 2 exponent.natAbs else 1
  if scale < 0 then numerator * Nat.pow 10 scale.natAbs / denominator
  else numerator / (denominator * Nat.pow 10 scale.natAbs)

/-- Of two neighbours on a grid the nearer to the number, of two equally near the even one. -/
def nearerNeighbour (mantissa : Nat) (exponent : Int) (below : Nat) (scale : Int) : Nat :=
  let toMiddle := commonUnit (2 * below + 1) scale (2 * mantissa) exponent
  if toMiddle.2 < toMiddle.1 then below
  else if toMiddle.1 < toMiddle.2 then below + 1
  else if below % 2 == 0 then below else below + 1

/-- The best decimal of a grid that reads back, if there is one. -/
def onGrid? (mantissa : Nat) (exponent scale : Int) : Option (Nat × Int) :=
  let below := gridFloor mantissa exponent scale
  match readsBack mantissa exponent below scale, readsBack mantissa exponent (below + 1) scale with
  | true, true => some (nearerNeighbour mantissa exponent below scale, scale)
  | true, false => some (below, scale)
  | false, true => some (below + 1, scale)
  | false, false => none

/-- The least power of ten above the number. -/
def decimalSize (mantissa : Nat) (exponent : Int) : Int :=
  let estimate : Int := ((mantissa.log2 : Int) + exponent) * 30103 / 100000
  match (List.range 4).find? fun (step : Nat) =>
      gridFloor mantissa exponent (estimate - 1 + (step : Int)) == 0 with
  | some step => estimate - 1 + (step : Int)
  | none => estimate + 3

/-- The fewest digits that read back to a positive number, and their power of ten. -/
def shortestDecimal (mantissa : Nat) (exponent : Int) : Nat × Int :=
  let size := decimalSize mantissa exponent
  match (List.range 17).findSome? fun (count : Nat) =>
      onGrid? mantissa exponent (size - 1 - (count : Int)) with
  | some found => found
  | none => (gridFloor mantissa exponent (size - 17), size - 17)

/-- The digits without the zeros at their end. -/
def significant (digits : Nat) : List Char :=
  ((Nat.toDigits 10 digits).reverse.dropWhile (· == '0')).reverse

/-- The decisions of writing a number: positional from `10 ^ lowest` up to below `10 ^ highest`,
at least `exponentDigits` digits in the exponent. -/
structure Layout where
  lowest : Int
  highest : Int
  exponentDigits : Nat

/-- Numbers are positional from a ten-thousandth to below ten to the sixteenth. -/
def layout : Layout := ⟨-4, 16, 2⟩

/-- The digits of an exponent, padded with zeros. -/
def padded (width : Nat) (value : Nat) : List Char :=
  let digits := Nat.toDigits 10 value
  List.replicate (width - digits.length) '0' ++ digits

/-- Digits with the point after `point` of them; zeros fill what is missing. -/
def positional (digits : List Char) (point : Int) : List Char :=
  if point ≤ 0 then '0' :: '.' :: (List.replicate point.natAbs '0' ++ digits)
  else if digits.length ≤ point.toNat then
    digits ++ List.replicate (point.toNat - digits.length) '0' ++ ['.', '0']
  else digits.take point.toNat ++ '.' :: digits.drop point.toNat

/-- Digits with a point after the first and an exponent. -/
def exponential (form : Layout) (digits : List Char) (exponent : Int) : List Char :=
  let fraction := if digits.length ≤ 1 then [] else '.' :: digits.drop 1
  let sign := if exponent < 0 then '-' else '+'
  digits.take 1 ++ fraction ++ ['e', sign] ++ padded form.exponentDigits exponent.natAbs

/-- A positive number as text. -/
def positiveText (form : Layout) (mantissa : Nat) (exponent : Int) : List Char :=
  let decimal := shortestDecimal mantissa exponent
  let digits := significant decimal.1
  let point : Int := (Nat.toDigits 10 decimal.1).length + decimal.2
  if form.lowest < point && point ≤ form.highest then positional digits point
  else exponential form digits (point - 1)

/-- The text of a number: `nan`, `inf`, or its shortest decimal. -/
def text : Binary64 → String
  | .notANumber _ => "nan"
  | .infinite negative => if negative then "-inf" else "inf"
  | .finite negative mantissa exponent =>
    let size :=
      if mantissa == 0 then "0.0" else String.ofList (positiveText layout mantissa exponent)
    if negative then "-" ++ size else size

/-- Large and small numbers have an exponent; the least number has a single digit. -/
example :
    [Binary64.ofDecimal false 123 (-2), .ofDecimal false 1 16, .ofDecimal false 1 (-5),
      .ofDecimal false 5 (-324)].map text = ["1.23", "1e+16", "1e-05", "5e-324"] := by
  decide +kernel

end AssetFetch.Decimal
