/-
  ScriptBridge/Json/Reader.lean
  =============================
  **Reading a document from text.**

  A reader takes the characters from here on and returns what it read and the
  rest.  Blanks may stand between any two tokens.  A leading zero stands alone,
  a point and an exponent need a digit, and a control character needs an escape.
  Two surrogate escapes make one character as a pair; one that stands alone makes
  its string ill-formed, and the rest is read all the same.
-/
import ScriptBridge.Json.Basic
import ScriptBridge.Text.Blank

namespace ScriptBridge.Json

def isSpace (c : Char) : Bool := c == ' ' || c == '\n' || c == '\t' || c == '\r'

def skipSpace (cs : List Char) : List Char := cs.dropWhile isSpace

/-- The longest run of digits, and the rest. -/
def readDigits (cs : List Char) : List Char × List Char := cs.span Text.isDigit

/-- The digits after a point, if one is there. -/
def readFraction : List Char → Option (List Char × List Char)
  | '.' :: cs =>
    match readDigits cs with
    | ([], _) => none
    | (digits, rest) => some (digits, rest)
  | cs => some ([], cs)

/-- The sign and digits of an exponent, if one is there. -/
def readExponent : List Char → Option (Option (Option Char × List Char) × List Char)
  | c :: cs =>
    if c = 'e' ∨ c = 'E' then
      let (sign, cs) :=
        match cs with
        | '+' :: rest => (some '+', rest)
        | '-' :: rest => (some '-', rest)
        | _ => (none, cs)
      match readDigits cs with
      | ([], _) => none
      | (digits, rest) => some (some (sign, digits), rest)
    else some (none, c :: cs)
  | [] => some (none, [])

/-- A number from its first digit on. -/
def readUnsigned (negative : Bool) (cs : List Char) : Option (Numeral × List Char) := do
  let (whole, cs) := readDigits cs
  if whole.isEmpty || (whole.head? == some '0' && 1 < whole.length) then none
  else
    let (fraction, cs) ← readFraction cs
    let (exponent, cs) ← readExponent cs
    some (⟨negative, whole, fraction, exponent⟩, cs)

def readNumeral : List Char → Option (Numeral × List Char)
  | '-' :: cs => readUnsigned true cs
  | cs => readUnsigned false cs

def hexValue (c : Char) : Option Nat :=
  if '0' ≤ c ∧ c ≤ '9' then some (c.toNat - '0'.toNat)
  else if 'a' ≤ c ∧ c ≤ 'f' then some (c.toNat - 'a'.toNat + 10)
  else if 'A' ≤ c ∧ c ≤ 'F' then some (c.toNat - 'A'.toNat + 10)
  else none

def readHex4 : List Char → Option (Nat × List Char)
  | a :: b :: c :: d :: rest => do
    let a ← hexValue a
    let b ← hexValue b
    let c ← hexValue c
    let d ← hexValue d
    some (((a * 16 + b) * 16 + c) * 16 + d, rest)
  | _ => none

/-- The second half of a surrogate pair, as an escape. -/
def readLowHalf : List Char → Option (Nat × List Char)
  | '\\' :: 'u' :: cs => (readHex4 cs).filter fun r => 0xDC00 ≤ r.1 && r.1 ≤ 0xDFFF
  | _ => none

/-- The character of a `\u` escape, after the `u`; the first half of a surrogate pair takes the second
    one that follows.  A half that stands alone is no character. -/
def readUnicode (cs : List Char) : Option (Option Char × List Char) := do
  let (n, cs) ← readHex4 cs
  if 0xDC00 ≤ n ∧ n ≤ 0xDFFF then some (none, cs)
  else if 0xD800 ≤ n ∧ n ≤ 0xDBFF then
    match readLowHalf cs with
    | some (m, cs) => some (some (Char.ofNat (0x10000 + (n - 0xD800) * 0x400 + (m - 0xDC00))), cs)
    | none => some (none, cs)
  else some (some (Char.ofNat n), cs)

/-- The character of an escape, after the backslash. -/
def readEscape : List Char → Option (Option Char × List Char)
  | '"' :: cs => some (some '"', cs)
  | '\\' :: cs => some (some '\\', cs)
  | '/' :: cs => some (some '/', cs)
  | 'b' :: cs => some (some '\x08', cs)
  | 'f' :: cs => some (some '\x0c', cs)
  | 'n' :: cs => some (some '\n', cs)
  | 'r' :: cs => some (some '\r', cs)
  | 't' :: cs => some (some '\t', cs)
  | 'u' :: cs => readUnicode cs
  | _ => none

/-- The characters of a string up to its closing quote. -/
def readChars : Nat → List Char → Option (List (Option Char) × List Char)
  | 0, _ => none
  | fuel + 1, c :: cs =>
    if c = '"' then some ([], cs)
    else if c = '\\' then do
      let (c, cs) ← readEscape cs
      let (s, cs) ← readChars fuel cs
      some (c :: s, cs)
    else if c.toNat < 0x20 then none
    else do
      let (s, cs) ← readChars fuel cs
      some (some c :: s, cs)
  | _ + 1, [] => none

/-- The characters, if all of them are characters. -/
def wholeChars? : List (Option Char) → Option (List Char)
  | [] => some []
  | none :: _ => none
  | some c :: rest => (wholeChars? rest).map (c :: ·)

/-- A string, after its opening quote; none when it is ill-formed. -/
def readString (cs : List Char) : Option (Option String × List Char) := do
  let (s, cs) ← readChars (cs.length + 1) cs
  some ((wholeChars? s).map String.ofList, cs)

/-- The members of an object, if all keys are well-formed. -/
def wholeMembers? : List (Option String × Json) → Option (List (String × Json))
  | [] => some []
  | (none, _) :: _ => none
  | (some k, j) :: rest => (wholeMembers? rest).map ((k, j) :: ·)

/-- The rest after a fixed word. -/
def expect : List Char → List Char → Option (List Char)
  | [], cs => some cs
  | w :: ws, c :: cs => if w = c then expect ws cs else none
  | _ :: _, [] => none

mutual

/-- A node and the text after it. -/
def readNode : Nat → List Char → Option (Json × List Char)
  | 0, _ => none
  | fuel + 1, cs =>
    match skipSpace cs with
    | 'n' :: cs => do return (.null, ← expect ['u', 'l', 'l'] cs)
    | 't' :: cs => do return (.bool true, ← expect ['r', 'u', 'e'] cs)
    | 'f' :: cs => do return (.bool false, ← expect ['a', 'l', 's', 'e'] cs)
    | '"' :: cs => do
      let (s, cs) ← readString cs
      return ((s.map .string).getD .illFormed, cs)
    | '[' :: cs =>
      match skipSpace cs with
      | ']' :: cs => some (.array [], cs)
      | cs => do
        let (items, cs) ← readItems fuel cs
        return (.array items, cs)
    | '\x7b' :: cs =>
      match skipSpace cs with
      | '\x7d' :: cs => some (.object [], cs)
      | cs => do
        let (members, cs) ← readMembers fuel cs
        return (((wholeMembers? members).map .object).getD .illFormed, cs)
    | cs => do
      let (n, cs) ← readNumeral cs
      return (.number n, cs)

/-- One item or more, and the end of the array. -/
def readItems : Nat → List Char → Option (List Json × List Char)
  | 0, _ => none
  | fuel + 1, cs => do
    let (j, cs) ← readNode fuel cs
    match skipSpace cs with
    | ']' :: cs => some ([j], cs)
    | ',' :: cs =>
      let (rest, cs) ← readItems fuel cs
      some (j :: rest, cs)
    | _ => none

/-- One member or more, and the end of the object. -/
def readMembers : Nat → List Char → Option (List (Option String × Json) × List Char)
  | 0, _ => none
  | fuel + 1, cs =>
    match skipSpace cs with
    | '"' :: cs => do
      let (k, cs) ← readString cs
      match skipSpace cs with
      | ':' :: cs =>
        let (j, cs) ← readNode fuel cs
        match skipSpace cs with
        | '\x7d' :: cs => some ([(k, j)], cs)
        | ',' :: cs =>
          let (rest, cs) ← readMembers fuel cs
          some ((k, j) :: rest, cs)
        | _ => none
      | _ => none
    | _ => none

end

/-- The document that a text is: one node with nothing but blanks around it. -/
def read (s : String) : Option Json :=
  match readNode (s.length + 1) s.toList with
  | some (j, rest) => if (skipSpace rest).isEmpty then some j else none
  | none => none

end ScriptBridge.Json
