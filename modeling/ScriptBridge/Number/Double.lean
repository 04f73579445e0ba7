/-
  ScriptBridge/Number/Double.lean
  ===============================
  **Binary64 numbers as bits, with exact rounding.**

  A `Double` is its 64 bits.  Every number that is not a NaN is a whole number
  of the unit `2 ^ -1074` (`units`), and an infinity counts as `2 ^ 1024`, one
  step past the largest finite number.  Order and equality compare units.  Each
  arithmetic operation computes its exact result as a ratio of two naturals and
  hands it to the one rounding function `ofRatio`: nearest, a tie to the even
  significand.
-/

namespace ScriptBridge

/-- A binary64 number, given by its bits. -/
structure Double where
  bits : UInt64
deriving DecidableEq, Repr, Inhabited

namespace Double

/-! ### Fields and classes -/

def isNegative (d : Double) : Bool := 9223372036854775808 ≤ d.bits.toNat

def exponentField (d : Double) : Nat := d.bits.toNat / Nat.pow 2 52 % 2048

def fractionField (d : Double) : Nat := d.bits.toNat % Nat.pow 2 52

def isNaN (d : Double) : Bool := d.exponentField == 2047 && d.fractionField != 0

def isInfinite (d : Double) : Bool := d.exponentField == 2047 && d.fractionField == 0

def isFinite (d : Double) : Bool := d.exponentField != 2047

def zero : Double := ⟨0⟩

def infinity : Double := ⟨0x7ff0000000000000⟩

/-- The NaN that an invalid operation on numbers makes. -/
def invalid : Double := ⟨0xfff8000000000000⟩

/-- The same number with the sign bit as given. -/
def withSign (negative : Bool) (d : Double) : Double :=
  ⟨if negative then d.bits ||| 0x8000000000000000 else d.bits &&& 0x7fffffffffffffff⟩

/-- The sign bit flipped, also of a NaN. -/
def neg (d : Double) : Double := ⟨d.bits ^^^ 0x8000000000000000⟩

/-- A NaN operand as a result: its quiet bit is set and the rest is kept. -/
def quiet (d : Double) : Double := ⟨d.bits ||| 0x0008000000000000⟩

/-- The significand: the number is `± significand * 2 ^ scale`. -/
def significand (d : Double) : Nat :=
  if d.exponentField = 0 then d.fractionField else d.fractionField + Nat.pow 2 52

/-- The exponent of two that goes with `significand`, raised by 1074 so that it is a natural. -/
def raisedScale (d : Double) : Nat := max d.exponentField 1 - 1

/-- The size of the number in units of `2 ^ -1074`; an infinity counts as `2 ^ 1024`. -/
def sizeInUnits (d : Double) : Nat := d.significand * Nat.pow 2 d.raisedScale

/-- The number in units of `2 ^ -1074`. -/
def units (d : Double) : Int := if d.isNegative then -(d.sizeInUnits : Int) else d.sizeInUnits

/-- How many units make one. -/
def unitsInOne : Nat := Nat.pow 2 1074

/-! ### Rounding -/

/-- The quotient of two naturals rounded to the nearest natural, a tie to the even one. -/
def roundQuotient (num den : Nat) : Nat :=
  let q := num / den
  let r := num % den
  if 2 * r < den then q else if den < 2 * r then q + 1 else q + q % 2

/-- The largest `e` with `2 ^ e ≤ num / den`, for positive `num` and `den`. -/
def ratioLog2 (num den : Nat) : Int :=
  let e : Int := (Nat.log2 num : Int) - Nat.log2 den
  if num * Nat.pow 2 (-e).toNat < den * Nat.pow 2 e.toNat then e - 1 else e

/-- The number nearest to `num / den`, a tie to the even significand.  What rounds past the largest
    finite number is infinite. -/
def ofRatio (negative : Bool) (num den : Nat) : Double :=
  if num = 0 then withSign negative zero
  else
    let scale : Int := max (ratioLog2 num den - 52) (-1074)
    let m := roundQuotient (num * Nat.pow 2 (-scale).toNat) (den * Nat.pow 2 scale.toNat)
    let bits := m + (scale + 1074).toNat * Nat.pow 2 52
    withSign negative (if infinity.bits.toNat ≤ bits then infinity else ⟨UInt64.ofNat bits⟩)

def ofInt (n : Int) : Double := ofRatio (n < 0) n.natAbs 1

/-- The number nearest to a whole number of units; `negativeZero` says which zero a zero is. -/
def ofUnits (n : Int) (negativeZero : Bool) : Double :=
  if n = 0 then withSign negativeZero zero else ofRatio (n < 0) n.natAbs unitsInOne

/-! ### Order -/

/-- Equality of numbers: both zeros are equal and a NaN equals nothing. -/
def equals (a b : Double) : Bool := !a.isNaN && !b.isNaN && a.units == b.units

def lessThan (a b : Double) : Bool := !a.isNaN && !b.isNaN && a.units < b.units

def atMost (a b : Double) : Bool := !a.isNaN && !b.isNaN && a.units ≤ b.units

/-! ### Arithmetic -/

/-- An operation on two numbers that are not NaN, extended to all: a NaN operand is the result, the
    left one first. -/
def lift (f : Double → Double → Double) (a b : Double) : Double :=
  if a.isNaN then a.quiet else if b.isNaN then b.quiet else f a b

def add : Double → Double → Double := lift fun a b =>
  if a.isInfinite then (if b.isInfinite && a.isNegative != b.isNegative then invalid else a)
  else if b.isInfinite then b
  else ofUnits (a.units + b.units) (a.isNegative && b.isNegative)

def sub : Double → Double → Double := lift fun a b => add a (neg b)

def mul : Double → Double → Double := lift fun a b =>
  let negative := a.isNegative != b.isNegative
  if a.isInfinite || b.isInfinite then
    (if a.units = 0 || b.units = 0 then invalid else withSign negative infinity)
  else ofRatio negative (a.sizeInUnits * b.sizeInUnits) (unitsInOne * unitsInOne)

def div : Double → Double → Double := lift fun a b =>
  let negative := a.isNegative != b.isNegative
  if a.isInfinite then (if b.isInfinite then invalid else withSign negative infinity)
  else if b.isInfinite then withSign negative zero
  else if b.units = 0 then (if a.units = 0 then invalid else withSign negative infinity)
  else ofRatio negative a.sizeInUnits b.sizeInUnits

/-- The remainder of truncating division; it has the sign of the dividend and is exact. -/
def rem : Double → Double → Double := lift fun a b =>
  if a.isInfinite || b.units = 0 then invalid
  else if b.isInfinite then a
  else ofUnits (a.units.tmod b.units) a.isNegative

/-! ### Whole parts -/

/-- The whole part, rounded toward zero. -/
def truncate (d : Double) : Int := d.units.tdiv unitsInOne

/-- The fraction is smaller than the distance from one to the next number. -/
def isNearlyWhole (d : Double) : Bool := (d.units.tmod unitsInOne).natAbs < Nat.pow 2 1022

end Double
end ScriptBridge
