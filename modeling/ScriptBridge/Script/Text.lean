/-
  ScriptBridge/Script/Text.lean
  =============================
  **Texts of script values.**

  A value looks different alone and as a part of another one: alone, a text has
  no quotes, the empty value no sign and a float its short form.  Octets are
  shown in groups of eight; joined to a text they are taken for UTF-8.  What a
  handle looks like is not known here, so it is asked for.
-/
import ScriptBridge.Number.Notation
import ScriptBridge.Script.Data
import ScriptBridge.Text.Parts
import ScriptBridge.Text.Quoted
import ScriptBridge.Text.Utf8

namespace ScriptBridge.Data

/-- The value without the wrapper of a shared one. -/
def unshare : Data → Data
  | .shared inner => unshare inner
  | d => d

/-! ### Octets -/

/-- An octet as two hexadecimal digits. -/
def octetText (octet : UInt8) : List Char :=
  [Nat.digitChar (octet.toNat / 16), Nat.digitChar (octet.toNat % 16)]

/-- Octets from a position on, with a blank before every eighth but the first. -/
def octetsFrom : Nat → List UInt8 → List Char
  | _, [] => []
  | i, octet :: rest =>
    (if 0 < i ∧ i % 8 = 0 then [' '] else []) ++ octetText octet ++ octetsFrom (i + 1) rest

/-- Octets in brackets. -/
def octetsText (octets : List UInt8) : String :=
  String.ofList ('[' :: (octetsFrom 0 octets ++ [']']))

/-! ### Whole values -/

section

variable {m : Type → Type} [Monad m] (handleText : ObjectHandle → m String)

mutual

/-- The text of a value as a part of another one. -/
def partText : Data → m String
  | .unit => return "()"
  | .bool b => return if b then "true" else "false"
  | .int n => return Word.text n
  | .float d => return d.itemText
  | .char c => return String.singleton c
  | .string s => return Text.quoted s
  | .blob octets => return octetsText octets
  | .array items => do return "[" ++ Text.join ", " (← partTexts items) ++ "]"
  | .map entries => do return "#\x7b" ++ Text.join ", " (← entryTexts entries) ++ "\x7d"
  | .handle h => handleText h
  | .shared inner => partText inner
  | .foreign f => return f.text

def partTexts : List Data → m (List String)
  | [] => return []
  | d :: rest => do
    let text ← partText d
    return text :: (← partTexts rest)

def entryTexts : List (String × Data) → m (List String)
  | [] => return []
  | (key, d) :: rest => do
    let text ← partText d
    return (Text.quoted key ++ ": " ++ text) :: (← entryTexts rest)

end

/-- The text of a value that stands alone and is no handle. -/
def wholeText (d : Data) : m String :=
  match d.unshare with
  | .unit => return ""
  | .float x => return x.scriptText
  | .string s => return s
  | d => partText handleText d

/-- What a text takes up of a value that is no handle. -/
def joinedText (d : Data) : m String :=
  match d.unshare with
  | .blob octets => return String.ofList (Utf8.decodeLossy octets)
  | d => wholeText handleText d

end

end ScriptBridge.Data
