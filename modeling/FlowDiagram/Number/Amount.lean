import FlowDiagram.Json.Value
import FlowDiagram.Number.Binary

/-!
# Amounts

The amounts that metrics add up: whole numbers of any size, and binary fractions that are rounded
to 53 bits after every addition. A fraction beyond their range is infinite, and a numeral may say
that it is no number at all.

## Main definitions

* `Amount`: a whole number, a rounded fraction, or an amount that is not finite.
* `Amount.isBelow`, `Amount.equals`: order and equality by value, whatever the kinds.
* `Amount.add`: their sum.
* `Amount.toJson`: how an amount is written.
-/

namespace FlowDiagram

/-- The value of a binary number. -/
def Binary.toRat (value : Binary) : Rat :=
  if 0 ≤ value.exponent then mkRat (value.mantissa * twoTo value.exponent.toNat) 1
  else mkRat value.mantissa (twoTo (-value.exponent).toNat)

/-- The fraction of 53 bits nearest to a value, or nothing if it is out of range. -/
def Binary.round? (value : Rat) : Option Rat :=
  (Binary.nearest value.num.natAbs value.den).map fun nearest =>
    if value.num < 0 then -nearest.toRat else nearest.toRat

/-- An amount: a whole number, a fraction of 53 bits, or something that is not finite. -/
inductive Amount
  | whole (value : Int)
  | fraction (value : Rat)
  | infinity (negative : Bool)
  | notANumber
  deriving DecidableEq, Repr

namespace Amount

/-- Nothing. -/
def zero : Amount := .whole 0

/-- The fraction nearest to a value; infinity beyond the range of fractions. -/
def ofRat (value : Rat) : Amount :=
  match Binary.round? value with
  | some rounded => .fraction rounded
  | none => .infinity (decide (value < 0))

/-- The amount that a numeral with a fraction or an exponent means. -/
def ofDecimal (value : Decimal) : Amount :=
  match Binary.ofDecimal value with
  | some binary => .fraction (if value.negative then -binary.toRat else binary.toRat)
  | none => .infinity value.negative

/-- The amount that a JSON value means. The boolean values count as zero and one. -/
def ofJson? : Json → Option Amount
  | .bool b => some (.whole (if b then 1 else 0))
  | .integer n => some (.whole n)
  | .decimal d => some (.ofDecimal d)
  | .infinity negative => some (.infinity negative)
  | .notANumber => some .notANumber
  | _ => none

/-- The value of a finite amount. -/
def toRat? : Amount → Option Rat
  | .whole n => some n
  | .fraction q => some q
  | _ => none

/-- Whether an amount is finite. -/
def isFinite (amount : Amount) : Bool :=
  amount.toRat?.isSome

/-- Whether an amount is a whole number by its kind. -/
def isWhole : Amount → Bool
  | .whole _ => true
  | _ => false

/-! ## Order -/

/-- Whether an amount is below another one. What is no number is neither below nor above. -/
def isBelow (a b : Amount) : Bool :=
  match a.toRat?, b.toRat? with
  | some p, some q => decide (p < q)
  | some _, none => b = .infinity false
  | none, some _ => a = .infinity true
  | none, none => a = .infinity true && b = .infinity false

/-- Whether two amounts have one value, whatever their kinds. -/
def equals (a b : Amount) : Bool :=
  match a.toRat?, b.toRat? with
  | some p, some q => decide (p = q)
  | _, _ => a = b

/-- Whether an amount is below zero. -/
def isNegative (amount : Amount) : Bool :=
  amount.isBelow zero

/-- The smaller of two amounts; the first of equal ones. -/
def least (a b : Amount) : Amount :=
  if b.isBelow a then b else a

/-- The larger of two amounts; the first of equal ones. -/
def greatest (a b : Amount) : Amount :=
  if a.isBelow b then b else a

/-! ## Sums -/

/-- Whether an amount is a whole number beyond the range of binary fractions. -/
def isTooLarge : Amount → Bool
  | .whole n => (Binary.round? n).isNone
  | _ => false

/-- Whether two amounts have a sum. A whole number that is too large has one only with another
whole number. -/
def canAdd : Amount → Amount → Bool
  | .whole _, .whole _ => true
  | a, b => !a.isTooLarge && !b.isTooLarge

/-- An amount as a fraction: a whole number becomes the nearest one. -/
def toFraction : Amount → Amount
  | .whole n => .ofRat n
  | amount => amount

/-- The sum of two fractions. Of infinity and its opposite there is none. -/
def addFractions (a b : Amount) : Amount :=
  match a.toRat?, b.toRat? with
  | some p, some q => .ofRat (p + q)
  | some _, none => b
  | none, some _ => a
  | none, none => if a = b then a else .notANumber

/-- The sum of two amounts. Whole numbers are added exactly; a fraction makes a fraction of the
whole number that it is added to. -/
def add : Amount → Amount → Amount
  | .whole m, .whole n => .whole (m + n)
  | a, b => addFractions a.toFraction b.toFraction

/-! ## Writing -/

/-- How a value is written: as an integer when it is whole, otherwise with all its digits. -/
def jsonOfRat (value : Rat) : Json :=
  if value.den = 1 then .integer value.num
  else
    let places := Nat.log2 value.den
    .decimal ⟨decide (value.num < 0), value.num.natAbs * Nat.pow 5 places, -places⟩

/-- How an amount is written. -/
def toJson : Amount → Json
  | .whole n => jsonOfRat n
  | .fraction q => jsonOfRat q
  | .infinity negative => .infinity negative
  | .notANumber => .notANumber

end Amount

end FlowDiagram
