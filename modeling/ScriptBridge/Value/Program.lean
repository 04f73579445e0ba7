/-
  ScriptBridge/Value/Program.lean
  ===============================
  **Programs, as text or as octets.**

  A program runs once its octets read as UTF-8.  The `logic` of a widget is a
  program given as a value; nil, a blank text and no octets mean that there is
  none.
-/
import ScriptBridge.Text.Blank
import ScriptBridge.Text.Utf8
import ScriptBridge.Value.Basic

namespace ScriptBridge

/-- A script, as source text or as the octets of it. -/
inductive Program where
  | source (text : String)
  | bytes (octets : List UInt8)
deriving DecidableEq, Repr

namespace Program

def decode : Program → Except Utf8.Fault String
  | .source text => .ok text
  | .bytes octets => (Utf8.decode octets).map String.ofList

/-- What a value says about a widget's logic. -/
inductive Logic where
  /-- There is none. -/
  | absent
  | present (program : Program)
  /-- The value is of a kind that is no program. -/
  | unreadable (found : String)
deriving DecidableEq, Repr

/-- Reads a value as a widget's logic. -/
def Logic.ofValue : Value → Logic
  | .nil => .absent
  | .string s => if Text.isBlank s then .absent else .present (.source s)
  | .bytes octets => if octets.isEmpty then .absent else .present (.bytes octets)
  | v => .unreadable v.typeName

end Program
end ScriptBridge
