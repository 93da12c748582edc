import FlowDiagram.Number.Binary

/-!
# Shortest numerals

A binary number is shown with the fewest digits that mean it: of the numerals with that many digits
the nearest one, and of two equally near ones the even one.

## Main definitions

* `Binary.shortest`: the digits and the exponent of the numeral.
* `Binary.text`: the numeral as it is shown.
-/

namespace FlowDiagram.Binary

/-- The number of decimal digits of a number. -/
def digitCount (n : Nat) : Nat :=
  (Nat.toDigits 10 n).length

/-- A binary number as a quotient. -/
def quotient (value : Binary) : Nat × Nat :=
  if 0 ≤ value.exponent then (value.mantissa * twoTo value.exponent.toNat, 1)
  else (value.mantissa, twoTo (-value.exponent).toNat)

/-- A quotient in units of a power of ten. -/
def inUnits (num den : Nat) (exponent : Int) : Nat × Nat :=
  if 0 ≤ exponent then (num, den * tenTo exponent.toNat)
  else (num * tenTo (-exponent).toNat, den)

/-- The exponent of the first digit of a quotient. -/
def order (num den : Nat) : Int :=
  let guess : Int := digitCount num - digitCount den
  let (n, d) := inUnits num den guess
  if n < d then guess - 1 else guess

/-- The better of the two neighbours of a quotient among whole numbers, as far as they mean the
number. -/
def pickNeighbour (means : Nat → Bool) (num den : Nat) : Option Nat :=
  let low := num / den
  let rest := 2 * (num % den)
  let preferred := if rest < den || (rest = den && low % 2 = 0) then low else low + 1
  let other := if preferred = low then low + 1 else low
  [preferred, other].find? means

/-- The numeral with a number of digits that means a binary number, if there is one. -/
def numeral? (value : Binary) (digits : Nat) : Option (Nat × Int) :=
  let (num, den) := value.quotient
  let exponent := order num den - digits + 1
  let (n, d) := inUnits num den exponent
  let means (candidate : Nat) := Binary.ofDecimal ⟨false, candidate, exponent⟩ == some value
  (pickNeighbour means n d).map (·, exponent)

/-- The digits and the exponent of the shortest numeral of a number other than zero. Seventeen
digits are always enough. -/
def shortest (value : Binary) : Nat × Int :=
  ((List.range 17).findSome? fun n => value.numeral? (n + 1)).getD (value.mantissa, 0)

/-- Digits without the zeros at their end. -/
def dropZeros (digits : List Char) : List Char :=
  (digits.reverse.dropWhile (· = '0')).reverse

/-- An exponent with its sign and at least two digits. -/
def exponentText (exponent : Int) : String :=
  let digits := toString exponent.natAbs
  (if exponent < 0 then "-" else "+") ++ if digits.length < 2 then "0" ++ digits else digits

/-- A numeral as it is shown, from its digits and the position of its point: positional as long as
the point is near the digits, with an exponent otherwise. -/
def layOut (digits : List Char) (point : Int) : String :=
  let zeros (n : Int) : List Char := List.replicate n.toNat '0'
  if -4 < point ∧ point ≤ 16 then
    if point ≤ 0 then String.ofList ('0' :: '.' :: zeros (-point) ++ digits)
    else
      let whole := digits.take point.toNat ++ zeros (point - digits.length)
      let fraction := digits.drop point.toNat
      String.ofList (whole ++ '.' :: if fraction.isEmpty then ['0'] else fraction)
  else
    let rest := digits.drop 1
    String.ofList (digits.take 1 ++ if rest.isEmpty then [] else '.' :: rest) ++ "e" ++
      exponentText (point - 1)

/-- A number as it is shown. -/
def text (value : Binary) : String :=
  if value.mantissa = 0 then "0.0"
  else
    let (digits, exponent) := value.shortest
    let all := Nat.toDigits 10 digits
    layOut (dropZeros all) (all.length + exponent)

end FlowDiagram.Binary
