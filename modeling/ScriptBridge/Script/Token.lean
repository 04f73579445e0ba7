/-
  ScriptBridge/Script/Token.lean
  ==============================
  **Tokens of the script language.**

  Blanks and comments to the end of a line separate tokens.  A minus sign is part
  of a number when a digit follows and no operand came before.  An integer that
  no word holds is a float.  Two parentheses with nothing between them are the
  empty value.  Some sequences of signs are refused.
-/
import ScriptBridge.Number.Notation
import ScriptBridge.Script.Data
import ScriptBridge.Script.Vocabulary

namespace ScriptBridge

inductive Token where
  | word (name : String)
  | literal (d : Data)
  | symbol (s : String)
deriving Repr

namespace Token

/-- After the token a minus sign is an operation on two operands. -/
def endsOperand : Token → Bool
  | .word name => !Vocabulary.operandWords.contains name
  | .literal _ => true
  | .symbol s => Vocabulary.closers.contains s

/-- The rest of a text after a start, if it starts so. -/
def dropStart? : List Char → List Char → Option (List Char)
  | [], cs => some cs
  | _ :: _, [] => none
  | p :: ps, c :: cs => if p = c then dropStart? ps cs else none

def readSymbol (cs : List Char) : Option (String × List Char) :=
  if Vocabulary.refusedSigns.any fun s => (dropStart? s.toList cs).isSome then none
  else Vocabulary.signs.findSome? fun s => (dropStart? s.toList cs).map fun rest => (s, rest)

/-! ### Numbers -/

/-- The float of a decimal literal; one beyond all doubles is infinite or zero. -/
def floatOf (negative : Bool) (digits : Nat) (exponent : Int) : Double :=
  let size : Int := (Nat.toDigits 10 digits).length + exponent
  let d :=
    if digits = 0 ∨ size < -400 then Double.zero
    else if 400 < size then Double.infinity
    else Double.ofDecimal digits exponent
  d.withSign negative

/-- The digits after a point; a point may also end a number, unless a name or another point follows. -/
def readPlaces (cs : List Char) : Option (List Char × List Char) :=
  match cs with
  | '.' :: c :: rest =>
    if Text.isDigit c then some ((c :: rest).span Text.isDigit)
    else if Vocabulary.isWordStart c || c == '.' then none
    else some ([], c :: rest)
  | _ => none

/-- The exponent of a float. -/
def readPower (cs : List Char) : Option (Int × List Char) :=
  match cs with
  | e :: rest =>
    if e = 'e' ∨ e = 'E' then
      let (negative, rest) :=
        match rest with
        | '+' :: rest => (false, rest)
        | '-' :: rest => (true, rest)
        | rest => (false, rest)
      match rest.span Text.isDigit with
      | ([], _) => none
      | (digits, rest) =>
        let n : Int := Nat.ofDigitChars 10 digits 0
        some (if negative then -n else n, rest)
    else none
  | [] => none

/-- A number from its first digit on. -/
def readNumber (negative : Bool) (cs : List Char) : Data × List Char :=
  let (whole, cs) := cs.span Text.isDigit
  let (places, cs) :=
    match readPlaces cs with
    | some (places, cs) => (some places, cs)
    | none => (none, cs)
  let (power, cs) :=
    match readPower cs with
    | some (n, cs) => (some n, cs)
    | none => (none, cs)
  let fraction := places.getD []
  let float := floatOf negative (Nat.ofDigitChars 10 (whole ++ fraction) 0)
    (power.getD 0 - fraction.length)
  if places.isNone ∧ power.isNone then
    let size : Int := Nat.ofDigitChars 10 whole 0
    match Word.ofInt? (if negative then -size else size) with
    | some n => (.int n, cs)
    | none => (.float float, cs)
  else (.float float, cs)

/-! ### Texts and characters -/

/-- A number of hexadecimal digits as a code point. -/
def readCode : Nat → Nat → List Char → Option (Nat × List Char)
  | 0, n, cs => some (n, cs)
  | count + 1, n, c :: cs =>
    if Text.isDigit c then readCode count (n * 16 + (c.toNat - '0'.toNat)) cs
    else if 'a' ≤ c ∧ c ≤ 'f' then readCode count (n * 16 + (c.toNat - 'a'.toNat + 10)) cs
    else if 'A' ≤ c ∧ c ≤ 'F' then readCode count (n * 16 + (c.toNat - 'A'.toNat + 10)) cs
    else none
  | _ + 1, _, [] => none

/-- The character of a code point, if it is one. -/
def charOf? (n : Nat) : Option Char := if n.isValidChar then some (Char.ofNat n) else none

/-- The character of an escape, after the backslash. -/
def readEscape (quote : Char) : List Char → Option (Char × List Char)
  | [] => none
  | c :: cs =>
    if c = 'n' then some ('\n', cs)
    else if c = 't' then some ('\t', cs)
    else if c = 'r' then some ('\r', cs)
    else if c = '\\' then some ('\\', cs)
    else if c = quote then some (quote, cs)
    else
      let count := if c = 'x' then 2 else if c = 'u' then 4 else if c = 'U' then 8 else 0
      if count = 0 then none
      else do
        let (n, cs) ← readCode count 0 cs
        let c ← charOf? n
        some (c, cs)

/-- The characters up to the closing quote, which stands for itself when it is doubled. -/
def readQuoted (quote : Char) : Nat → List Char → Option (List Char × List Char)
  | 0, _ => none
  | _ + 1, [] => none
  | fuel + 1, c :: cs =>
    if c = quote then
      match cs with
      | d :: rest =>
        if d = quote then do
          let (s, cs) ← readQuoted quote fuel rest
          some (quote :: s, cs)
        else some ([], cs)
      | [] => some ([], [])
    else if c = '\n' then none
    else if c = '\\' then do
      let (c, cs) ← readEscape quote cs
      let (s, cs) ← readQuoted quote fuel cs
      some (c :: s, cs)
    else do
      let (s, cs) ← readQuoted quote fuel cs
      some (c :: s, cs)

/-! ### All tokens -/

/-- Drops blanks and comments. -/
def skipBlank : Nat → List Char → List Char
  | 0, cs => cs
  | fuel + 1, cs =>
    match cs with
    | '/' :: '/' :: rest => skipBlank fuel (rest.dropWhile (· != '\n'))
    | c :: rest => if Text.isBlankChar c then skipBlank fuel rest else c :: rest
    | [] => []

/-- Reads one token; the flag says that an operand came before. -/
def readToken (afterOperand : Bool) (cs : List Char) : Option (Token × List Char) :=
  match cs with
  | [] => none
  | c :: rest =>
    if Text.isDigit c then
      let (d, cs) := readNumber false cs
      some (.literal d, cs)
    else if Vocabulary.isWordStart c then
      let (name, cs) := cs.span Vocabulary.isWordPart
      if Vocabulary.isName name then some (.word (String.ofList name), cs) else none
    else if c = '"' then do
      let (s, cs) ← readQuoted '"' (rest.length + 1) rest
      some (.literal (.string (String.ofList s)), cs)
    else if c = '\'' then
      match readQuoted '\'' (rest.length + 1) rest with
      | some ([c], cs) => some (.literal (.char c), cs)
      | _ => none
    else
      match rest with
      | d :: rest' =>
        if c = '-' ∧ Text.isDigit d = true ∧ afterOperand = false then
          let (d, cs) := readNumber true rest
          some (.literal d, cs)
        else if c = '(' ∧ d = ')' then some (.literal .unit, rest')
        else (readSymbol cs).map fun (s, cs) => (.symbol s, cs)
      | [] => (readSymbol cs).map fun (s, cs) => (.symbol s, cs)

/-- Reads tokens up to the end of the text. -/
def readAll : Nat → Bool → List Char → Option (List Token)
  | 0, _, _ => none
  | fuel + 1, afterOperand, cs =>
    match skipBlank (cs.length + 1) cs with
    | [] => some []
    | cs => do
      let (t, cs) ← readToken afterOperand cs
      let rest ← readAll fuel t.endsOperand cs
      some (t :: rest)

def ofText (s : String) : Option (List Token) := readAll (s.length + 1) false s.toList

end Token
end ScriptBridge
