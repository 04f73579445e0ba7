/-
  ScriptBridge/Number/Shortest.lean
  =================================
  **The fewest decimal digits that read back as the same double.**

  The reals that round to a double form an interval around it, whose ends belong
  to it exactly when the significand is even.  For one digit, two digits, and so
  on, the number's two neighbours on that decimal grid are tried: the first grid
  with a neighbour in the interval wins, of two neighbours the nearer one.
-/
import ScriptBridge.Number.Double

namespace ScriptBridge

/-- The decimal number `digits * 10 ^ exponent`. -/
structure Decimal where
  digits : Nat
  exponent : Int
deriving DecidableEq, Repr

/-- Which neighbour an exact tie goes to. -/
inductive Tie where
  | upward
  | toEven
deriving DecidableEq, Repr

namespace Decimal

/-- Drops trailing zeros of the digits, at most `fuel` of them. -/
def dropZeros : Nat → Decimal → Decimal
  | 0, d => d
  | fuel + 1, d =>
    if d.digits ≠ 0 ∧ d.digits % 10 = 0 then dropZeros fuel ⟨d.digits / 10, d.exponent + 1⟩ else d

/-- A double and its two midpoints to its neighbours, as multiples of one fraction `1 / den`. -/
structure RoundingInterval where
  low : Nat
  value : Nat
  high : Nat
  den : Nat
  closed : Bool

/-- The interval of reals that round to the size of a finite double. -/
def RoundingInterval.of (d : Double) : RoundingInterval :=
  let m := d.significand
  let unit := Nat.pow 2 d.raisedScale
  let below := if m = Nat.pow 2 52 ∧ 1 < d.exponentField then unit else 2 * unit
  { low := 4 * m * unit - below
    value := 4 * m * unit
    high := 4 * m * unit + 2 * unit
    den := 4 * Double.unitsInOne
    closed := m % 2 == 0 }

/-- The number `num / den` of the decimal grid lies in the interval (given over a common
    denominator). -/
def RoundingInterval.holds (i : RoundingInterval) (num den : Nat) : Bool :=
  if i.closed then decide (i.low * den ≤ num * i.den) && decide (num * i.den ≤ i.high * den)
  else decide (i.low * den < num * i.den) && decide (num * i.den < i.high * den)

/-- The largest `k` with `10 ^ k ≤ num / den`, searched downward from `start`. -/
def ratioLog10 (num den : Nat) : Nat → Int → Int
  | 0, k => k
  | fuel + 1, k =>
    if den * Nat.pow 10 k.toNat ≤ num * Nat.pow 10 (-k).toNat then k else ratioLog10 num den fuel (k - 1)

/-- The better of the value's two neighbours on the grid `10 ^ exponent` that lies in the interval. -/
def neighbour (tie : Tie) (i : RoundingInterval) (exponent : Int) : Option Decimal :=
  let up := Nat.pow 10 exponent.toNat
  let down := Nat.pow 10 (-exponent).toNat
  let num := i.value * down
  let den := i.den * up
  let q := num / den
  let r := num % den
  let lower := i.holds (q * up) down
  let upper := i.holds ((q + 1) * up) down
  let upperWins :=
    match tie with
    | .upward => decide (den ≤ 2 * r)
    | .toEven => decide (den < 2 * r) || (2 * r == den && q % 2 == 1)
  if lower && upper then some ⟨if upperWins then q + 1 else q, exponent⟩
  else if lower then some ⟨q, exponent⟩
  else if upper then some ⟨q + 1, exponent⟩
  else none

/-- Tries grids of ever more digits, the first at `10 ^ exponent`. -/
def refine (tie : Tie) (i : RoundingInterval) : Nat → Int → Decimal
  | 0, exponent => ⟨i.value / i.den, exponent⟩
  | fuel + 1, exponent =>
    match neighbour tie i exponent with
    | some d => if d.digits = 0 then refine tie i fuel (exponent - 1) else d
    | none => refine tie i fuel (exponent - 1)

/-- The shortest decimal that reads back as the size of a finite double; zero is `0 * 10 ^ 0`. -/
def shortest (tie : Tie) (d : Double) : Decimal :=
  if d.significand = 0 then ⟨0, 0⟩
  else
    let i := RoundingInterval.of d
    let start : Int := ratioLog10 i.value i.den 700 309
    dropZeros 20 (refine tie i 20 start)

def length (d : Decimal) : Nat := (Nat.toDigits 10 d.digits).length

/-- The exponent of the first digit: the number is `x.xxx * 10 ^ leading`. -/
def leading (d : Decimal) : Int := d.exponent + d.length - 1

/-! ### Texts -/

/-- The digits before the point in positional notation. -/
def wholeDigits (d : Decimal) : List Char :=
  let digits := Nat.toDigits 10 d.digits
  let front := digits.take (digits.length - (-d.exponent).toNat)
  (if front.isEmpty then ['0'] else front) ++ List.replicate d.exponent.toNat '0'

/-- The digits after the point in positional notation. -/
def fractionDigits (d : Decimal) : List Char :=
  let digits := Nat.toDigits 10 d.digits
  let places := (-d.exponent).toNat
  List.replicate (places - digits.length) '0' ++ digits.drop (digits.length - places)

/-- Positional notation with at least `places` digits after the point, and no point without one. -/
def positional (places : Nat) (d : Decimal) : List Char :=
  let fraction := d.fractionDigits
  let fraction := fraction ++ List.replicate (places - fraction.length) '0'
  if fraction.isEmpty then d.wholeDigits else d.wholeDigits ++ '.' :: fraction

/-- Exponent notation: one digit, the others after a point, and the exponent of the first. -/
def scientific (d : Decimal) : List Char :=
  let digits := Nat.toDigits 10 d.digits
  let e := d.leading
  digits.take 1 ++ (if digits.length = 1 then [] else '.' :: digits.drop 1) ++
    'e' :: ((if e < 0 then ['-'] else []) ++ Nat.toDigits 10 e.natAbs)

end Decimal
end ScriptBridge
