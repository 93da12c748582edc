import FlowDiagram.Json.Value

/-!
# Binary floating point

A number written with a fraction or an exponent means the nearest number of the form
`mantissa * 2 ^ exponent` that fits 53 bits; of two equally near ones the one with the even
mantissa. Everything is computed on natural numbers, so nothing is rounded on the way.

## Main definitions

* `Binary`: a finite number of 53 bits, without its sign.
* `Binary.nearest`: the number nearest to a quotient.
* `Binary.ofDecimal`: the number that a decimal numeral means.
* `Binary.toNat?`: the value, when it is whole.
-/

namespace FlowDiagram

/-- A power of two. -/
def twoTo (exponent : Nat) : Nat :=
  Nat.pow 2 exponent

/-- A power of ten. -/
def tenTo (exponent : Nat) : Nat :=
  Nat.pow 10 exponent

/-- The number `mantissa * 2 ^ exponent`. -/
structure Binary where
  mantissa : Nat
  exponent : Int
  deriving DecidableEq, Repr

namespace Binary

/-- A quotient rounded to a whole number, halves to the even neighbour. -/
def roundQuotient (num den : Nat) : Nat :=
  let whole := num / den
  let rest := 2 * (num % den)
  if rest < den then whole
  else if den < rest then whole + 1
  else if whole % 2 = 0 then whole else whole + 1

/-- The quotient `num / den` in units of `2 ^ exponent`, rounded. -/
def scaled (num den : Nat) (exponent : Int) : Nat :=
  if exponent < 0 then roundQuotient (num * twoTo (-exponent).toNat) den
  else roundQuotient num (den * twoTo exponent.toNat)

/-- The least exponent of a number: below it numbers have fewer bits. -/
def leastExponent : Int := -1074

/-- The greatest exponent of a number of 53 bits. -/
def greatestExponent : Int := 971

/-- Whether the quotient needs more than 53 whole bits in units of `2 ^ exponent`. -/
def exceeds (num den : Nat) (exponent : Int) : Bool :=
  if exponent < 0 then decide (den * twoTo 53 ≤ num * twoTo (-exponent).toNat)
  else decide (den * twoTo exponent.toNat * twoTo 53 ≤ num)

/-- The number nearest to `num / den`, or nothing if it is too large. -/
def nearest (num den : Nat) : Option Binary :=
  let guess : Int := (Nat.log2 num : Int) - (Nat.log2 den : Int) - 53
  let exponent := if exceeds num den guess then guess + 1 else guess
  let exponent := max exponent leastExponent
  let mantissa := scaled num den exponent
  let (mantissa, exponent) :=
    if mantissa = twoTo 53 then (twoTo 52, exponent + 1) else (mantissa, exponent)
  if greatestExponent < exponent then none else some ⟨mantissa, exponent⟩

/-- The number that a numeral means without its sign, or nothing if it is too large. Numerals far
outside the range are settled by their order of magnitude. -/
def ofDecimal (value : Decimal) : Option Binary :=
  if value.digits = 0 then some ⟨0, 0⟩
  else
    let order := (Nat.toDigits 10 value.digits).length + value.exponent
    if 400 < order then none
    else if order < -400 then some ⟨0, 0⟩
    else if value.exponent < 0 then nearest value.digits (tenTo (-value.exponent).toNat)
    else nearest (value.digits * tenTo value.exponent.toNat) 1

/-- The value of a number that is whole. -/
def toNat? (value : Binary) : Option Nat :=
  if 0 ≤ value.exponent then some (value.mantissa * twoTo value.exponent.toNat)
  else
    let unit := twoTo (-value.exponent).toNat
    if value.mantissa % unit = 0 then some (value.mantissa / unit) else none

end Binary

end FlowDiagram
