/-
  ScriptBridge/Number/Notation.lean
  =================================
  **How doubles are shown in labels and in scripts.**

  All forms have the shortest digits.  Display text never has an exponent and
  shows a number that is an integer up to a rounding error as that integer;
  script text switches to an exponent outside `10 ^ -7 … 10 ^ 13`, and the text of
  a number inside an array or a map outside `10 ^ -4 … 10 ^ 16`.
-/
import ScriptBridge.Number.Shortest
import ScriptBridge.Number.Word

namespace ScriptBridge.Double

/-! ### Writing -/

def signed (d : Double) (size : List Char) : List Char :=
  if d.isNegative then '-' :: size else size

/-- The words for the numbers that have no digits. -/
def specialText (d : Double) : String :=
  if d.isNaN then "NaN" else if d.isNegative then "-inf" else "inf"

/-- Positional digits, as many as are needed, without a fraction for an integer. -/
def plainText (d : Double) : String :=
  if d.isFinite then String.ofList (d.signed ((Decimal.shortest .upward d).positional 0))
  else d.specialText

/-- A number that is an integer up to a rounding error reads as that integer. -/
def displayText (d : Double) : String :=
  if d.isNearlyWhole ∧ d.units.natAbs < Nat.pow 10 15 * unitsInOne then
    Word.text (Int64.ofInt d.truncate)
  else d.plainText

/-- The form of a number in a script: it always shows that it is not an integer, and both zeros look
    alike. -/
def scriptText (d : Double) : String :=
  if d.isNaN then "NaN"
  else if d.isInfinite then d.specialText
  else if d.units = 0 then "0.0"
  else
    let size := d.withSign false
    let s := Decimal.shortest .upward d
    let far := size.lessThan (ofRatio false 1 (Nat.pow 10 7)) || (ofInt (Int.pow 10 13)).lessThan size
    String.ofList (d.signed (if far then s.scientific else s.positional 1))

/-- The form of a number inside an array or a map of a script; minus zero keeps its sign. -/
def itemText (d : Double) : String :=
  if d.isNaN then "NaN"
  else if d.isInfinite then d.specialText
  else
    let size := d.withSign false
    let s := Decimal.shortest .upward d
    let far := size.lessThan (ofRatio false 1 (Nat.pow 10 4)) || (ofInt (Int.pow 10 16)).atMost size
    let far := d.units ≠ 0 && far
    String.ofList (d.signed (if far then s.scientific else s.positional 1))

/-! ### Reading -/

/-- The double nearest to a decimal number. -/
def ofDecimal (digits : Nat) (exponent : Int) : Double :=
  ofRatio false (digits * Nat.pow 10 exponent.toNat) (Nat.pow 10 (-exponent).toNat)

end ScriptBridge.Double
