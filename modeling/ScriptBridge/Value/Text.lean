/-
  ScriptBridge/Value/Text.lean
  ============================
  **The text of a value, as labels and log lines show it.**
-/
import ScriptBridge.Number.Notation
import ScriptBridge.Text.Parts
import ScriptBridge.Text.Utf8
import ScriptBridge.Value.Basic

namespace ScriptBridge.Value

mutual

/-- The text of a value: nothing for nil, a list in brackets, a map in braces, octets read as UTF-8
    with replacement characters. -/
def text : Value → String
  | .nil => ""
  | .bool b => if b then "true" else "false"
  | .int n => Word.text n
  | .float d => d.displayText
  | .string s => s
  | .list items => "[" ++ Text.join ", " (textItems items) ++ "]"
  | .map entries => "\x7b" ++ Text.join ", " (textEntries entries) ++ "\x7d"
  | .bytes octets => String.ofList (Utf8.decodeLossy octets)
  | .object _ => ObjectHandle.text

def textItems : List Value → List String
  | [] => []
  | v :: rest => text v :: textItems rest

def textEntries : List (String × Value) → List String
  | [] => []
  | (k, v) :: rest => (k ++ ": " ++ text v) :: textEntries rest

end

end ScriptBridge.Value
