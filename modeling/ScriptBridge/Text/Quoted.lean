/-
  ScriptBridge/Text/Quoted.lean
  =============================
  **Texts between quotes.**

  Inside quotes a quote, a backslash and the common controls are written as a
  backslash and one character.  Any other character that does not show itself is
  written as its code point in hexadecimal, between braces.
-/
import ScriptBridge.Text.Printable

namespace ScriptBridge.Text

/-- How a character is written between quotes. -/
def quotedChar (c : Char) : List Char :=
  if c = '"' ∨ c = '\\' then ['\\', c]
  else if c = '\n' then ['\\', 'n']
  else if c = '\r' then ['\\', 'r']
  else if c = '\t' then ['\\', 't']
  else if c = '\x00' then ['\\', '0']
  else if isPrintable c then [c]
  else '\\' :: 'u' :: '\x7b' :: (Nat.toDigits 16 c.toNat ++ ['\x7d'])

/-- A text with its quotes. -/
def quoted (s : String) : String :=
  String.ofList ('"' :: (s.toList.flatMap quotedChar ++ ['"']))

end ScriptBridge.Text
