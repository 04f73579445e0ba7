/-
  ScriptBridge/Data/Comparison.lean
  =================================
  **The six comparisons.**

  Of two things in an order, a comparison holds or does not; of two things that
  have no order at all, only being different holds.
-/

namespace ScriptBridge

/-- A comparison of two things. -/
inductive Comparison where
  | equal
  | notEqual
  | less
  | atMost
  | greater
  | atLeast
deriving DecidableEq, Repr

namespace Comparison

/-- The comparison holds of two things in the given order. -/
def accepts : Comparison → Ordering → Bool
  | .equal, o => o.isEq
  | .notEqual, o => o.isNe
  | .less, o => o.isLT
  | .atMost, o => o.isLE
  | .greater, o => o.isGT
  | .atLeast, o => o.isGE

/-- The comparison holds of two things that are not of one kind. -/
def acceptsUnlike (c : Comparison) : Bool := c == .notEqual

/-- The comparison asks for equality or for difference, not for an order. -/
def isEquality (c : Comparison) : Bool := c == .equal || c == .notEqual

/-- The comparison holds when equality is as given; for `equal` and `notEqual` only. -/
def acceptsEqual (c : Comparison) (same : Bool) : Bool := same != c.acceptsUnlike

end Comparison
end ScriptBridge
