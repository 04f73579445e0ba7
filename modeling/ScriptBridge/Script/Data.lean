/-
  ScriptBridge/Script/Data.lean
  =============================
  **Values inside a script.**

  Scripts tell characters from texts and know kinds that the bridge does not
  (`Foreign`).  A value that several variables have in common is wrapped
  (`shared`).
-/
import ScriptBridge.Value.Basic

namespace ScriptBridge

/-- A value of a kind that the bridge does not know. -/
inductive Foreign where
  /-- A function by its name. -/
  | function (name : String)
  | timestamp
deriving DecidableEq, Repr

namespace Foreign

def kindName : Foreign → String
  | .function _ => "Fn"
  | .timestamp => "timestamp"

def text : Foreign → String
  | .function name => "Fn(" ++ name ++ ")"
  | .timestamp => "<timestamp>"

end Foreign

/-- A value of a script. -/
inductive Data where
  | unit
  | bool (b : Bool)
  | int (n : Int64)
  | float (d : Double)
  | char (c : Char)
  | string (s : String)
  | blob (octets : List UInt8)
  | array (items : List Data)
  | map (entries : List (String × Data))
  | handle (h : ObjectHandle)
  | shared (inner : Data)
  | foreign (f : Foreign)
deriving Repr, Inhabited

namespace Data

/-- The name of the kind of a value, as scripts see it. -/
def typeName : Data → String
  | .unit => "()"
  | .bool _ => "bool"
  | .int _ => "i64"
  | .float _ => "f64"
  | .char _ => "char"
  | .string _ => "string"
  | .blob _ => "blob"
  | .array _ => "array"
  | .map _ => "map"
  | .handle _ => "HostObject"
  | .shared inner => inner.typeName
  | .foreign f => f.kindName

mutual

/-- The largest number of arrays and maps around any part of the value. -/
def depth : Data → Nat
  | .array items => depthItems items
  | .map entries => depthEntries entries
  | .shared inner => depth inner
  | _ => 0

def depthItems : List Data → Nat
  | [] => 0
  | d :: rest => max (depth d + 1) (depthItems rest)

def depthEntries : List (String × Data) → Nat
  | [] => 0
  | (_, d) :: rest => max (depth d + 1) (depthEntries rest)

end

mutual

/-- Every part is of a kind that the bridge knows. -/
def isPlain : Data → Bool
  | .array items => isPlainItems items
  | .map entries => isPlainEntries entries
  | .shared inner => isPlain inner
  | .foreign _ => false
  | _ => true

def isPlainItems : List Data → Bool
  | [] => true
  | d :: rest => isPlain d && isPlainItems rest

def isPlainEntries : List (String × Data) → Bool
  | [] => true
  | (_, d) :: rest => isPlain d && isPlainEntries rest

end

end Data
end ScriptBridge
