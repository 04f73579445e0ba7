/-
  ScriptBridge/Value/Kind.lean
  ============================
  **Declared kinds of parameters, and what they accept.**

  A value is coerced to the kind its parameter declares before a host method
  sees it.  Two kinds change a value: a float parameter widens a word, and a
  bytes parameter takes text as its UTF-8 octets.
-/
import ScriptBridge.Error
import ScriptBridge.Text.Utf8

namespace ScriptBridge

/-- The declared kind of a parameter. -/
inductive ParamKind where
  | any
  | bool
  | int
  | float
  | number
  | string
  | bytes
  | list
  | map
  | object
deriving DecidableEq, Repr

namespace ParamKind

def name : ParamKind → String
  | .any => "any"
  | .bool => "bool"
  | .int => "integer"
  | .float => "float"
  | .number => "number"
  | .string => "string"
  | .bytes => "bytes"
  | .list => "list"
  | .map => "map"
  | .object => "object"

/-- The value as the parameter receives it. -/
def coerce : ParamKind → Value → Except MarshalError Value
  | .any, v => .ok v
  | .bool, .bool b => .ok (.bool b)
  | .int, .int n => .ok (.int n)
  | .float, .int n => .ok (.float (Double.ofInt n.toInt))
  | .float, .float d => .ok (.float d)
  | .number, .int n => .ok (.int n)
  | .number, .float d => .ok (.float d)
  | .string, .string s => .ok (.string s)
  | .bytes, .bytes octets => .ok (.bytes octets)
  | .bytes, .string s => .ok (.bytes (Utf8.octets s))
  | .list, .list items => .ok (.list items)
  | .map, .map entries => .ok (.map entries)
  | .object, .object h => .ok (.object h)
  | kind, v => .error (.kindMismatch kind.name v.typeName)

end ParamKind
end ScriptBridge
