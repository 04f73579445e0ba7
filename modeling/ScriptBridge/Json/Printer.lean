/-
  ScriptBridge/Json/Printer.lean
  ==============================
  **Documents as text, compact or indented.**

  A string escapes the quote, the backslash and the control characters, and
  nothing else.  Indentation is two spaces a level; an empty array or object
  stays on its line.
-/
import ScriptBridge.Json.Basic

namespace ScriptBridge

def Numeral.chars (n : Numeral) : List Char :=
  (if n.negative then ['-'] else []) ++ n.whole ++
    (if n.fraction.isEmpty then [] else '.' :: n.fraction) ++
    match n.exponent with
    | none => []
    | some (sign, digits) => 'e' :: (sign.toList ++ digits)

namespace Json

def hexDigit (n : Nat) : Char := Nat.digitChar (n % 16)

/-- A character inside quotes. -/
def escapeChar (c : Char) : List Char :=
  if c = '"' then ['\\', '"']
  else if c = '\\' then ['\\', '\\']
  else if c = '\x08' then ['\\', 'b']
  else if c = '\t' then ['\\', 't']
  else if c = '\n' then ['\\', 'n']
  else if c = '\x0c' then ['\\', 'f']
  else if c = '\r' then ['\\', 'r']
  else if c.toNat < 0x20 then ['\\', 'u', '0', '0', hexDigit (c.toNat / 16), hexDigit c.toNat]
  else [c]

/-- A text in quotes. -/
def quote (s : String) : List Char := '"' :: (s.toList.flatMap escapeChar ++ ['"'])

/-- An ill-formed string, which stands for every other one. -/
def illFormedText : List Char := ['"', '\\', 'u', 'd', '8', '0', '0', '"']

mutual

/-- The text of a document without any blank. -/
def compact : Json → List Char
  | .null => ['n', 'u', 'l', 'l']
  | .bool true => ['t', 'r', 'u', 'e']
  | .bool false => ['f', 'a', 'l', 's', 'e']
  | .number n => n.chars
  | .string s => quote s
  | .array items => '[' :: (compactItems items ++ [']'])
  | .object members => '\x7b' :: (compactMembers members ++ ['\x7d'])
  | .illFormed => illFormedText

def compactItems : List Json → List Char
  | [] => []
  | [j] => compact j
  | j :: rest => compact j ++ ',' :: compactItems rest

def compactMembers : List (String × Json) → List Char
  | [] => []
  | [(k, j)] => quote k ++ ':' :: compact j
  | (k, j) :: rest => quote k ++ ':' :: (compact j ++ ',' :: compactMembers rest)

end

def text (j : Json) : String := String.ofList (compact j)

/-- A line break and the indentation of a level. -/
def newLine (level : Nat) : List Char := '\n' :: List.replicate (2 * level) ' '

mutual

/-- The text of a document with one item or member to a line. -/
def indented (level : Nat) : Json → List Char
  | .array [] => ['[', ']']
  | .array (j :: rest) =>
    '[' :: (newLine (level + 1) ++ indented (level + 1) j ++ indentedItems level rest)
  | .object [] => ['\x7b', '\x7d']
  | .object ((k, j) :: rest) =>
    '\x7b' :: (newLine (level + 1) ++ quote k ++ ':' :: ' ' :: (indented (level + 1) j ++
      indentedMembers level rest))
  | .null => ['n', 'u', 'l', 'l']
  | .bool true => ['t', 'r', 'u', 'e']
  | .bool false => ['f', 'a', 'l', 's', 'e']
  | .number n => n.chars
  | .string s => quote s
  | .illFormed => illFormedText

/-- The further items of an array, and its end. -/
def indentedItems (level : Nat) : List Json → List Char
  | [] => newLine level ++ [']']
  | j :: rest => ',' :: (newLine (level + 1) ++ indented (level + 1) j ++ indentedItems level rest)

/-- The further members of an object, and its end. -/
def indentedMembers (level : Nat) : List (String × Json) → List Char
  | [] => newLine level ++ ['\x7d']
  | (k, j) :: rest =>
    ',' :: (newLine (level + 1) ++ quote k ++ ':' :: ' ' :: (indented (level + 1) j ++
      indentedMembers level rest))

end

def prettyText (j : Json) : String := String.ofList (indented 0 j)

end Json
end ScriptBridge
