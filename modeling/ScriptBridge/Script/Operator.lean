/-
  ScriptBridge/Script/Operator.lean
  =================================
  **Operations on script values.**

  Integer arithmetic is exact or an error; a float makes the other number a
  float.  Floats are compared up to a rounding error.  Values of different kinds
  are unequal and in no order; two handles, or two functions, cannot be compared
  at all.  What a text takes up depends on the classes that describe their
  objects, so joining is no operation here.  `none` stands for an error of the
  language.
-/
import ScriptBridge.Number.Tolerance
import ScriptBridge.Script.Text
import ScriptBridge.Script.Tree

namespace ScriptBridge.Data

/-! ### Comparison -/

/-- A number as a float. -/
def toDouble? : Data → Option Double
  | .int n => some (Double.ofInt n.toInt)
  | .float d => some d
  | _ => none

/-- A character or text as text. -/
def letters? : Data → Option String
  | .char c => some (String.singleton c)
  | .string s => some s
  | _ => none

/-- Compares two values other than arrays and maps. -/
def compareParts? (c : Comparison) (a b : Data) : Option Bool :=
  match a, b with
  | .unit, .unit => some (c == .equal)
  | .bool a, .bool b => some (c.accepts (compare a b))
  | .int a, .int b => some (c.accepts (compare a.toInt b.toInt))
  | .blob a, .blob b => if c.isEquality then some (c.acceptsEqual (a == b)) else none
  | .foreign .timestamp, .foreign .timestamp => some (c.accepts .eq)
  | a, b =>
    match a.toDouble?, b.toDouble? with
    | some x, some y => some (Double.nearly c x y)
    | _, _ =>
      match a.letters?, b.letters? with
      | some s, some t => some (c.accepts (compare s t))
      | _, _ => if a.typeName = b.typeName then none else some c.acceptsUnlike

mutual

def equal? (a b : Data) : Option Bool :=
  match a, b.unshare with
  | .array a, .array b => if a.length = b.length then equalItems? a b else some false
  | .map a, .map b => if a.length = b.length then equalEntries? a b else some false
  | .shared a, b => equal? a b
  | a, b => compareParts? .equal a b

/-- Equality item by item, up to the first that differs. -/
def equalItems? : List Data → List Data → Option Bool
  | [], [] => some true
  | a :: as, b :: bs =>
    match equal? a b with
    | some true => equalItems? as bs
    | result => result
  | _, _ => some false

/-- Equality entry by entry, up to the first that the other map does not have or that differs. -/
def equalEntries? : List (String × Data) → List (String × Data) → Option Bool
  | [], _ => some true
  | (k, a) :: rest, other =>
    match Assoc.find? k other with
    | none => some false
    | some b =>
      match equal? a b with
      | some true => equalEntries? rest other
      | result => result

end

def compare? (c : Comparison) (a b : Data) : Option Bool :=
  match a, b with
  | .array _, .array _ | .map _, .map _ =>
    if c.isEquality then (a.equal? b).map c.acceptsEqual else none
  | a, b => compareParts? c a b

/-! ### Arithmetic -/

/-- An operation on numbers, given for words and for floats. -/
def arithmetic? (words : Int → Int → Option Int) (floats : Double → Double → Double) (a b : Data) :
    Option Data :=
  match a, b with
  | .int a, .int b => do
    let n ← words a.toInt b.toInt
    let n ← Word.ofInt? n
    return .int n
  | a, b => do
    let x ← a.toDouble?
    let y ← b.toDouble?
    return .float (floats x y)

/-- The sum of two values other than texts. -/
def add? (a b : Data) : Option Data :=
  match a, b with
  | .char a, .char b => some (.string (String.ofList [a, b]))
  | .array a, .array b => some (.array (a ++ b))
  | .map a, .map b => some (.map (b.foldl (fun acc e => Assoc.insert e.1 e.2 acc) a))
  | .blob a, .blob b => some (.blob (a ++ b))
  | a, b => arithmetic? (fun m n => some (m + n)) Double.add a b

/-- The difference of two numbers, or a text without the places where another one stands. -/
def sub? (a b : Data) : Option Data :=
  match a with
  | .string s => b.letters?.map fun part => .string (Text.without part s)
  | a => arithmetic? (fun m n => some (m - n)) Double.sub a b

def negate? : Data → Option Data
  | .int n => (Word.ofInt? (-n.toInt)).map .int
  | .float d => some (.float d.neg)
  | _ => none

/-- The value with its own sign. -/
def plus? : Data → Option Data
  | .int n => some (.int n)
  | .float d => some (.float d)
  | _ => none

/-! ### Parts of a value -/

/-- The position that an index means; a negative one counts from the end. -/
def position? (size : Nat) (n : Int64) : Option Nat :=
  let i := if n < 0 then n.toInt + size else n.toInt
  if 0 ≤ i ∧ i < size then some i.toNat else none

/-- The bit of a number that an index means. -/
def bit? (n i : Int64) : Option Bool := (position? 64 i).map fun i => n.toBitVec.getLsbD i

/-- The number with the bit that an index means as given. -/
def withBit? (n i : Int64) (bit : Bool) : Option Int64 :=
  (position? 64 i).map fun i =>
    let mask : UInt64 := 1 <<< UInt64.ofNat i
    if bit then (n.toUInt64 ||| mask).toInt64 else (n.toUInt64 &&& ~~~mask).toInt64

/-! ### Growing a value -/

/-- The octet that a number is, up to a multiple of 256. -/
def octetOf (n : Int64) : UInt8 := UInt8.ofNat (n.toInt % 256).toNat

/-- What an array or octets become when something is added to them in their own place: an array
    takes up a value that is no array as an item, and octets take up a number or a text. -/
def grow? (a b : Data) : Option Data :=
  match a, b with
  | .array _, .array _ => none
  | .array items, d => some (.array (items ++ [d]))
  | .blob octets, .int n => some (.blob (octets ++ [octetOf n]))
  | .blob octets, d => d.letters?.map fun s => .blob (octets ++ Utf8.octets s)
  | _, _ => none

end ScriptBridge.Data

namespace ScriptBridge.BinaryOp

def perform? (op : BinaryOp) (a b : Data) : Option Data :=
  let a := a.unshare
  let b := b.unshare
  match op with
  | .add => a.add? b
  | .sub => a.sub? b
  | .mul => Data.arithmetic? (fun m n => some (m * n)) Double.mul a b
  | .div => Data.arithmetic? (fun m n => if n = 0 then none else some (m.tdiv n)) Double.div a b
  | .rem =>
    Data.arithmetic?
      (fun m n => if n = 0 ∨ (m = Word.least ∧ n = -1) then none else some (m.tmod n)) Double.rem a b
  | .compare c => (Data.compare? c a b).map .bool
  | .range => none

end ScriptBridge.BinaryOp
