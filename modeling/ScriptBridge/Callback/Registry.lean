/-
  ScriptBridge/Callback/Registry.lean
  ===================================
  **What runs when a widget fires.**

  A binding holds the logic of a widget, the context of the render that made it
  and the names of that render.  A widget has at most one binding; firing a
  widget without one does nothing.
-/
import ScriptBridge.Callback.Names
import ScriptBridge.Value.Program

namespace ScriptBridge

/-- The logic of a widget with everything that it sees. -/
structure CallbackBinding where
  widget : WidgetId
  context : Value
  logic : Program
  names : NameTable
deriving DecidableEq, Repr

/-- The bindings, by widget. -/
structure CallbackRegistry where
  bindings : List (WidgetId × CallbackBinding)
deriving DecidableEq, Repr

namespace CallbackRegistry

def empty : CallbackRegistry := ⟨[]⟩

def find? (r : CallbackRegistry) (id : WidgetId) : Option CallbackBinding := Assoc.find? id r.bindings

/-- Stores a binding in the place of one for the same widget. -/
def register (r : CallbackRegistry) (b : CallbackBinding) : CallbackRegistry :=
  ⟨Assoc.insert b.widget b r.bindings⟩

def remove (r : CallbackRegistry) (id : WidgetId) : CallbackRegistry := ⟨Assoc.erase id r.bindings⟩

/-- Gives the bindings of some widgets other names. -/
def shareNames (r : CallbackRegistry) (ids : List WidgetId) (names : NameTable) : CallbackRegistry :=
  ⟨r.bindings.map fun e => if ids.contains e.1 then (e.1, { e.2 with names := names }) else e⟩

def size (r : CallbackRegistry) : Nat := r.bindings.length

/-- Runs the logic of a widget with an event, if there is any. -/
def fire {β : Type} (r : CallbackRegistry) (id : WidgetId) (event : Value)
    (evaluate : CallbackBinding → Value → β) : Option β :=
  (r.find? id).map fun b => evaluate b event

end CallbackRegistry
end ScriptBridge
