/-
**Binary floating point numbers, exactly.**

A number of the 64-bit binary format is a sign, a mantissa below `2 ^ 53` and a power of two, or
one of the special values. Everything is computed on whole numbers.

* `ofRatio`: the number nearest to a quotient, a tie going to the even mantissa;
* `ofDecimal`: the number nearest to `digits · 10 ^ scale`;
* `equals`, `equalsInt`: equality of values, in which the two zeros agree and nothing agrees with
  the value that is no number.
-/

namespace AssetFetch.Decimal

/-- A number of the 64-bit binary format; a finite one is `mantissa · 2 ^ exponent`. A value that is
no number carries a payload, which tells it from others of its kind. -/
inductive Binary64 where
  | notANumber (payload : Nat)
  | infinite (negative : Bool)
  | finite (negative : Bool) (mantissa : Nat) (exponent : Int)
  deriving DecidableEq, Repr, Inhabited

namespace Binary64

/-- The exponent of the smallest numbers. -/
def leastExponent : Int := -1074

/-- The exponent of the largest numbers. -/
def greatestExponent : Int := 971

/-- The least mantissa of fifty-three bits. -/
def leastNormal : Nat := 0x10000000000000

/-- The zero of a sign. -/
def zeroOf (negative : Bool) : Binary64 :=
  .finite negative 0 leastExponent

/-- The quotient rounded to the nearest whole number, a tie going to the even one. -/
def nearestQuotient (numerator denominator : Nat) : Nat :=
  let quotient := numerator / denominator
  let twiceRest := 2 * (numerator % denominator)
  if twiceRest > denominator || (twiceRest == denominator && quotient % 2 == 1) then quotient + 1
  else quotient

/-- The quotient divided by `2 ^ exponent`, as a fraction. -/
def scaledByPower (numerator denominator : Nat) (exponent : Int) : Nat × Nat :=
  if exponent < 0 then (numerator * Nat.pow 2 exponent.natAbs, denominator)
  else (numerator, denominator * Nat.pow 2 exponent.natAbs)

/-- The exponent at which the quotient has a mantissa of fifty-three bits, or the least one. -/
def exponentFor (numerator denominator : Nat) : Int :=
  let guess : Int := (numerator.log2 : Int) - (denominator.log2 : Int) - 52
  let fraction := scaledByPower numerator denominator guess
  let exact := if fraction.1 / fraction.2 < leastNormal then guess - 1 else guess
  max exact leastExponent

/-- The number nearest to a positive quotient. -/
def ofRatio (negative : Bool) (numerator denominator : Nat) : Binary64 :=
  if numerator == 0 then zeroOf negative
  else
    let exponent := exponentFor numerator denominator
    let fraction := scaledByPower numerator denominator exponent
    let mantissa := nearestQuotient fraction.1 fraction.2
    let carried :=
      if mantissa == 2 * leastNormal then (leastNormal, exponent + 1) else (mantissa, exponent)
    if carried.2 > greatestExponent then .infinite negative
    else if carried.1 == 0 then zeroOf negative
    else .finite negative carried.1 carried.2

/-- Powers of ten above which every number is infinite. -/
def hugeScale : Int := 310

/-- Powers of ten below which every number is zero. -/
def tinyScale : Int := -330

/-- The number nearest to `digits · 10 ^ scale`. -/
def ofDecimal (negative : Bool) (digits : Nat) (scale : Int) : Binary64 :=
  if digits == 0 then zeroOf negative
  else
    let size : Int := (Nat.toDigits 10 digits).length + scale
    if size > hugeScale then .infinite negative
    else if size < tinyScale then zeroOf negative
    else if scale < 0 then ofRatio negative digits (Nat.pow 10 scale.natAbs)
    else ofRatio negative (digits * Nat.pow 10 scale.natAbs) 1

/-- Whether the value is zero. -/
def isZero : Binary64 → Bool
  | finite _ mantissa _ => mantissa == 0
  | _ => false

/-- A finite value as a signed multiple of the smallest positive number. -/
def multiple (negative : Bool) (mantissa : Nat) (exponent : Int) : Int :=
  let size : Int := (mantissa * Nat.pow 2 (exponent - leastExponent).toNat : Nat)
  if negative then -size else size

/-- Whether two values are equal. -/
def equals : Binary64 → Binary64 → Bool
  | infinite negative, infinite other => negative == other
  | finite negative mantissa exponent, finite negative' mantissa' exponent' =>
    multiple negative mantissa exponent == multiple negative' mantissa' exponent'
  | _, _ => false

/-- Whether a value is the whole number. -/
def equalsInt : Binary64 → Int → Bool
  | finite negative mantissa exponent, value =>
    multiple negative mantissa exponent == value * (Nat.pow 2 leastExponent.natAbs : Nat)
  | _, _ => false

end Binary64

/-- A tenth is not exact in base two. -/
example : Binary64.ofDecimal false 1 (-1) = .finite false 7205759403792794 (-56) := by
  decide +kernel

end AssetFetch.Decimal
