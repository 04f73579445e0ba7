/-
  ScriptBridge/Script/Native.lean
  ===============================
  **The functions that the bridge adds to scripts.**

  Every declared method name of every class that the bridge has seen may be
  called on any handle, with up to twelve arguments, so that a wrong count
  reaches the method table and is reported there.  The nine names that are also
  global functions keep only their declared counts.  When several functions fit
  a call, the one with the more exact parameter types is meant.
-/
import ScriptBridge.Class.Registry
import ScriptBridge.Script.Data

namespace ScriptBridge

/-- A function of the bridge. -/
inductive Native where
  /-- Calls the method of a name on a handle. -/
  | method (name : String)
  | field (name : String)
  /-- Calls the method named by the second argument with a list of arguments. -/
  | invoke
  | retain
  /-- The text of a handle. -/
  | describe
  | ui
  | uiSet
deriving DecidableEq, Repr

/-- The tables of the classes that the bridge has seen when a script starts. -/
structure Natives where
  tables : List MethodTable

namespace Natives

/-- The highest argument count of a method call with a dot. -/
def maxArity : Nat := 12

/-- The names that are also global functions. -/
def globalNames : List String :=
  ["ui", "ui_set", "invoke", "retain", "to_string", "to_debug", "print", "debug", "type_of"]

def declares (n : Natives) (name : String) : Bool :=
  n.tables.any fun t => t.methods.any fun m => m.name == name

/-- Some class advertises the name with this argument count. -/
def advertises (n : Natives) (name : String) (arity : Nat) : Bool :=
  n.tables.any fun t => ((Assoc.find? name (t.scriptArities maxArity)).getD []).contains arity

/-- The name can be called on a handle with this argument count. -/
def offers (n : Natives) (name : String) (arity : Nat) : Bool :=
  n.advertises name arity ||
    (n.declares name && !globalNames.contains name && decide (arity ≤ maxArity))

def hasField (n : Natives) (name : String) : Bool := n.tables.any fun t => t.fields.contains name

/-- The function of the bridge that a call with arguments of any type means. -/
def selectGlobal (name : String) (arity : Nat) : Option Native :=
  if arity = 2 then
    if name = "ui" then some .ui else if name = "ui_set" then some .uiSet else none
  else none

/-- The function of the bridge that a call means, if any. -/
def select (n : Natives) (name : String) (args : List Data) : Option Native :=
  match args with
  | .handle _ :: rest =>
    match rest with
    | [] =>
      if name = "retain" then some .retain
      else if n.offers name 0 then some (.method name)
      else if name = "to_string" ∨ name = "to_debug" then some .describe
      else none
    | [.string _, .array _] =>
      if name = "invoke" then some .invoke
      else if n.offers name 2 then some (.method name)
      else selectGlobal name 3
    | rest =>
      if n.offers name rest.length then some (.method name) else selectGlobal name (rest.length + 1)
  | args => selectGlobal name args.length

/-- The function of the bridge that reads a field, if any. -/
def selectField (n : Natives) (name : String) : Option Native :=
  if n.hasField name then some (.field name) else none

end Natives
end ScriptBridge
