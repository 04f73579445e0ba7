/-
  ScriptBridge/Callback/Names.lean
  ================================
  **The names that one render gave to its widgets.**

  A name stands for the last widget that was created under it.
-/
import ScriptBridge.Value.Basic

namespace ScriptBridge

/-- The named widgets of a render, in order of their names. -/
structure NameTable where
  entries : List (String × WidgetHandle)
deriving DecidableEq, Repr

namespace NameTable

def empty : NameTable := ⟨[]⟩

def insert (t : NameTable) (name : String) (handle : WidgetHandle) : NameTable :=
  ⟨Assoc.insert name handle t.entries⟩

def find? (t : NameTable) (name : String) : Option WidgetHandle := Assoc.find? name t.entries

def size (t : NameTable) : Nat := t.entries.length

/-- Names a widget that may be without a name. -/
def add (t : NameTable) (name : Option String) (handle : WidgetHandle) : NameTable :=
  match name with
  | some name => t.insert name handle
  | none => t

def toValue (t : NameTable) : Value := .map (t.entries.map fun e => (e.1, e.2.toValue))

theorem find?_insert_self (t : NameTable) (name : String) (handle : WidgetHandle) :
    (t.insert name handle).find? name = some handle := Assoc.find?_insert_self ..

theorem find?_insert_of_ne {name name' : String} (h : name ≠ name') (t : NameTable)
    (handle : WidgetHandle) : (t.insert name handle).find? name' = t.find? name' :=
  Assoc.find?_insert_of_ne h ..

end NameTable
end ScriptBridge
