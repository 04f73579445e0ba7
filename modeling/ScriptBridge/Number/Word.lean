/-
  ScriptBridge/Number/Word.lean
  =============================
  **Integers of 64 bits.**

  Script integers, widget ids and coordinates are words (`Int64`).  Layout sums
  stop at the ends of the range (`clamp`), and script arithmetic refuses a result
  outside it (`ofInt?`).  Both go through the exact `Int` result, so their laws are
  stated on `Int64.toInt`.  Only counters wrap around: the one of the widget ids
  goes from the greatest word to the least.
-/

namespace ScriptBridge.Word

def least : Int := -9223372036854775808

def greatest : Int := 9223372036854775807

theorem least_le_toInt (a : Int64) : least ≤ a.toInt := by
  have h := a.le_toInt
  unfold least
  omega

theorem toInt_le_greatest (a : Int64) : a.toInt ≤ greatest := by
  have h := a.toInt_lt
  unfold greatest
  omega

/-- The word of value `n`, if `n` lies in the range. -/
def ofInt? (n : Int) : Option Int64 :=
  if least ≤ n ∧ n ≤ greatest then some (Int64.ofInt n) else none

/-- The word nearest to `n`. -/
def clamp (n : Int) : Int64 :=
  Int64.ofInt (max least (min greatest n))

theorem toInt_ofInt {n : Int} (hl : least ≤ n) (hg : n ≤ greatest) : (Int64.ofInt n).toInt = n := by
  unfold least at hl
  unfold greatest at hg
  exact Int64.toInt_ofInt_of_le (by omega) (by omega)

theorem ofInt?_eq_some_iff {n : Int} {a : Int64} : ofInt? n = some a ↔ a.toInt = n := by
  unfold ofInt?
  constructor
  · intro h
    split at h
    · next hn =>
      cases h
      exact toInt_ofInt hn.1 hn.2
    · cases h
  · intro h
    subst h
    simp [least_le_toInt, toInt_le_greatest, Int64.ofInt_toInt]

theorem toInt_clamp (n : Int) : (clamp n).toInt = max least (min greatest n) := by
  have hr : least ≤ greatest := by decide
  exact toInt_ofInt (by omega) (by omega)

/-- Addition that stops at the ends of the range. -/
def add (a b : Int64) : Int64 := clamp (a.toInt + b.toInt)

/-- Subtraction that stops at the ends of the range. -/
def sub (a b : Int64) : Int64 := clamp (a.toInt - b.toInt)

theorem toInt_add (a b : Int64) :
    (add a b).toInt = max least (min greatest (a.toInt + b.toInt)) := toInt_clamp _

theorem toInt_sub (a b : Int64) :
    (sub a b).toInt = max least (min greatest (a.toInt - b.toInt)) := toInt_clamp _

/-- The decimal digits of a word, with a leading minus sign when it is negative. -/
def digits (a : Int64) : List Char :=
  if a.toInt < 0 then '-' :: Nat.toDigits 10 a.toInt.natAbs else Nat.toDigits 10 a.toInt.natAbs

def text (a : Int64) : String := String.ofList (digits a)

/-- Reads a word: digits, with a sign or without. -/
def ofText? (s : String) : Option Int64 :=
  let (negative, digits) :=
    match s.toList with
    | '-' :: rest => (true, rest)
    | '+' :: rest => (false, rest)
    | cs => (false, cs)
  if digits.isEmpty || !digits.all Char.isDigit then none
  else
    let size : Int := Nat.ofDigitChars 10 digits 0
    ofInt? (if negative then -size else size)

end ScriptBridge.Word
