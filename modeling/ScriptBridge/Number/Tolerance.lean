/-
  ScriptBridge/Number/Tolerance.lean
  ==================================
  **Comparing doubles up to a rounding error.**

  Two doubles are compared by their gap: their difference as a part of the
  larger one, or the difference itself when their product is zero.  A gap of at
  most the distance from one to the next double counts as none.  A gap that is a
  NaN, as that of an infinity, passes no comparison.  Beside zero a NaN has the
  scale zero, and so no gap.
-/
import ScriptBridge.Data.Comparison
import ScriptBridge.Number.Double

namespace ScriptBridge.Double

def one : Double := ofInt 1

/-- The distance from one to the next double, `2 ^ -52`. -/
def tolerance : Double := ofRatio false 1 (Nat.pow 2 52)

/-- The larger of two sizes; a NaN is passed over. -/
def larger (a b : Double) : Double :=
  if a.isNaN then b else if b.isNaN || b.lessThan a then a else b

/-- What the difference of two doubles is measured against. -/
def gapScale (a b : Double) : Double :=
  if (mul a b).equals zero then one else larger (a.withSign false) (b.withSign false)

/-- The difference of two doubles as a part of their scale; there is none when the scale is zero. -/
def gap (a b : Double) : Double :=
  if (gapScale a b).equals zero then zero else div (sub a b) (gapScale a b)

/-- Compares two doubles up to the tolerance. -/
def nearly (c : Comparison) (a b : Double) : Bool :=
  let gap := gap a b
  match c with
  | .equal => (gap.withSign false).atMost tolerance
  | .notEqual => tolerance.lessThan (gap.withSign false)
  | .less => gap.lessThan tolerance.neg
  | .atMost => gap.lessThan tolerance
  | .greater => tolerance.lessThan gap
  | .atLeast => tolerance.neg.lessThan gap

end ScriptBridge.Double
