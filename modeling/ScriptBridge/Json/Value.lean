/-
  ScriptBridge/Json/Value.lean
  ============================
  **Values as documents.**

  A number literal without fraction and exponent is a word when it fits, every
  other number is a double; minus zero is a double too.  A document number reads
  as a 64-bit significand scaled by a power of ten, each step rounded; too large
  a number is refused.  No document reads as octets or as a handle: octets are
  written as an array of numbers and a handle as its number.
-/
import ScriptBridge.Data.Assoc
import ScriptBridge.Json.Basic
import ScriptBridge.Number.Shortest
import ScriptBridge.Number.Word
import ScriptBridge.Value.Basic

namespace ScriptBridge

namespace Numeral

def ofInt (n : Int) : Numeral := ⟨n < 0, Nat.toDigits 10 n.natAbs, [], none⟩

/-- The literal of a finite double: its shortest digits, positional with a fraction when the first
    digit stands for `10 ^ -5` to `10 ^ 15`, else with an exponent. -/
def ofDouble (d : Double) : Numeral :=
  let s := Decimal.shortest .toEven d
  if s.digits = 0 ∨ (-5 ≤ s.leading ∧ s.leading ≤ 15) then
    ⟨d.isNegative, s.wholeDigits, if s.fractionDigits.isEmpty then ['0'] else s.fractionDigits, none⟩
  else
    let digits := Nat.toDigits 10 s.digits
    ⟨d.isNegative, digits.take 1, digits.drop 1,
      some (some (if s.leading < 0 then '-' else '+'), Nat.toDigits 10 s.leading.natAbs)⟩

/-- The largest significand. -/
def significandLimit : Nat := Nat.pow 2 64 - 1

/-- The next digit joins the significand, unless it would outgrow its 64 bits. -/
def extend? (significand : Nat) (digit : Char) : Option Nat :=
  let n := significand * 10 + (digit.toNat - '0'.toNat)
  if n ≤ significandLimit then some n else none

/-- Takes the digits before the point; from the first that does not fit on, a digit only raises the
    exponent. -/
def takeWhole : Nat → List Char → Nat × Nat
  | significand, [] => (significand, 0)
  | significand, c :: rest =>
    match extend? significand c with
    | some n => takeWhole n rest
    | none => (significand, (c :: rest).length)

/-- Takes the digits after the point; from the first that does not fit on they are dropped. -/
def takeFraction : Nat → Nat → List Char → Nat × Nat
  | significand, places, [] => (significand, places)
  | significand, places, c :: rest =>
    match extend? significand c with
    | some n => takeFraction n (places + 1) rest
    | none => (significand, places)

def exponentValue (n : Numeral) : Int :=
  match n.exponent with
  | none => 0
  | some (sign, digits) =>
    let size : Int := Nat.ofDigitChars 10 digits 0
    if sign = some '-' then -size else size

/-- The double nearest to a power of ten. -/
def powerOfTen (n : Nat) : Double := Double.ofRatio false (Nat.pow 10 n) 1

/-- Scales a significand by a power of ten, three hundred and eight places at a time; the fuel covers
    every double.  `none` is a number too large for a double. -/
def scale : Nat → Double → Int → Option Double
  | 0, d, _ => some d
  | fuel + 1, d, exponent =>
    if exponent.natAbs ≤ 308 then
      if exponent < 0 then some (Double.div d (powerOfTen exponent.natAbs))
      else
        let scaled := Double.mul d (powerOfTen exponent.natAbs)
        if scaled.isInfinite then none else some scaled
    else if d.units = 0 then some d
    else if 0 < exponent then none
    else scale fuel (Double.div d (powerOfTen 308)) (exponent + 308)

def toDouble? (n : Numeral) : Option Double :=
  let (significand, dropped) := takeWhole 0 n.whole
  let (significand, places) := takeFraction significand 0 n.fraction
  (scale 5 (Double.ofInt significand) (n.exponentValue + dropped - places)).map
    (Double.withSign n.negative)

/-- The literal is that of an integer other than minus zero. -/
def integer? (n : Numeral) : Option Int :=
  if n.fraction.isEmpty ∧ n.exponent.isNone then
    let size := Nat.ofDigitChars 10 n.whole 0
    if n.negative then (if size = 0 then none else some (-(size : Int))) else some size
  else none

def toWord? (n : Numeral) : Option Int64 := n.integer?.bind Word.ofInt?

/-- The number as a value; `none` is a number out of range. -/
def toValue? (n : Numeral) : Option Value :=
  match n.toWord? with
  | some a => some (.int a)
  | none => n.toDouble?.map .float

end Numeral

namespace Json

mutual

/-- The value that a document stands for; `none` when a number in it is out of range or a string in it
    is ill-formed. -/
def toValue? : Json → Option Value
  | .null => some .nil
  | .illFormed => none
  | .bool b => some (.bool b)
  | .number n => n.toValue?
  | .string s => some (.string s)
  | .array items => (toValueItems? items).map .list
  | .object members => (toValueMembers? members).map fun entries => .map (Assoc.ofList entries)

def toValueItems? : List Json → Option (List Value)
  | [] => some []
  | j :: rest =>
    match toValue? j, toValueItems? rest with
    | some v, some vs => some (v :: vs)
    | _, _ => none

def toValueMembers? : List (String × Json) → Option (List (String × Value))
  | [] => some []
  | (k, j) :: rest =>
    match toValue? j, toValueMembers? rest with
    | some v, some vs => some ((k, v) :: vs)
    | _, _ => none

end

/-- The deepest nesting that is read. -/
def nestingLimit : Nat := 127

/-- The value of a document that is not nested too deeply. -/
def value? (j : Json) : Option Value := if j.nesting ≤ nestingLimit then j.toValue? else none

end Json

namespace Value

mutual

def toJson : Value → Json
  | .nil => .null
  | .bool b => .bool b
  | .int n => .number (Numeral.ofInt n.toInt)
  | .float d => if d.isFinite then .number (Numeral.ofDouble d) else .null
  | .string s => .string s
  | .list items => .array (toJsonItems items)
  | .map entries => .object (toJsonEntries entries)
  | .bytes octets => .array (octets.map fun b => .number (Numeral.ofInt b.toNat))
  | .object h => .number (Numeral.ofInt h.number)

def toJsonItems : List Value → List Json
  | [] => []
  | v :: rest => toJson v :: toJsonItems rest

def toJsonEntries : List (String × Value) → List (String × Json)
  | [] => []
  | (k, v) :: rest => (k, toJson v) :: toJsonEntries rest

end

end Value
end ScriptBridge
