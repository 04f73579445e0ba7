/-
  ScriptBridge/Bridge/State.lean
  ==============================
  **The state of a bridge and its elementary changes.**

  The counters of widget ids and handles are shared by all bridges of a process,
  so a state carries their next values.  A binding pins every handle in its
  context, once for each time that the handle occurs there, and lets them go
  when it is replaced or its widget is destroyed.
-/
import ScriptBridge.Bridge.Host
import ScriptBridge.Callback.Registry
import ScriptBridge.Handle.Table
import ScriptBridge.Widget.Table

namespace ScriptBridge

/-- The next id and handle of a process. -/
structure Counters where
  widget : WidgetId
  handle : Nat
deriving DecidableEq, Repr

def Counters.first : Counters := ⟨1001, 1⟩

/-- The state of one bridge, with platform states `σ`, host states `η` and host classes `κ`. -/
structure BridgeState (σ η κ : Type) where
  platform : σ
  host : η
  handles : HandleTable (ObjectRef κ)
  classes : ClassRegistry (ClassKey κ)
  callbacks : CallbackRegistry
  widgets : WidgetTable
  counters : Counters

namespace BridgeState

variable {σ η κ : Type}

/-- A bridge that nothing has happened on. -/
def initial (platform : σ) (host : η) (counters : Counters) : BridgeState σ η κ :=
  ⟨platform, host, .empty, .empty, .empty, .empty, counters⟩

/-- The next widget id, which is used up. -/
def freshWidget (b : BridgeState σ η κ) : WidgetId × BridgeState σ η κ :=
  (b.counters.widget, { b with counters := { b.counters with widget := b.counters.widget + 1 } })

/-- Puts an object in the innermost open scope under a fresh handle; its class is now seen. -/
def adopt [DecidableEq κ] (family : ClassFamily (ClassKey κ)) (o : ObjectRef κ)
    (b : BridgeState σ η κ) : ObjectHandle × BridgeState σ η κ :=
  let h : ObjectHandle := ⟨b.counters.handle⟩
  (h, { b with
    classes := (b.classes.tableFor family o.classKey).2
    handles := b.handles.adopt h o
    counters := { b.counters with handle := b.counters.handle + 1 } })

/-- What a host hands over as a value; an object is adopted. -/
def lower [DecidableEq κ] (family : ClassFamily (ClassKey κ)) (v : HostValue κ)
    (b : BridgeState σ η κ) : Value × BridgeState σ η κ :=
  match v with
  | .value v => (v, b)
  | .object o =>
    let (h, b) := b.adopt family o
    (.object h, b)

def openScope (b : BridgeState σ η κ) : ScopeToken × BridgeState σ η κ :=
  let (token, handles) := b.handles.openScope
  (token, { b with handles := handles })

def closeScope (token : ScopeToken) (b : BridgeState σ η κ) : BridgeState σ η κ :=
  { b with handles := (b.handles.closeScope token).2 }

def retain (h : ObjectHandle) (b : BridgeState σ η κ) : Bool × BridgeState σ η κ :=
  let (known, handles) := b.handles.retain h
  (known, { b with handles := handles })

def release (h : ObjectHandle) (b : BridgeState σ η κ) : Bool × BridgeState σ η κ :=
  let (known, handles) := b.handles.release h
  (known, { b with handles := handles })

/-- Pins every handle in a value, as often as it occurs. -/
def pin (v : Value) (b : BridgeState σ η κ) : BridgeState σ η κ :=
  { b with handles := b.handles.retainAll v.handles }

/-- Takes one pin from every handle in a value, as often as it occurs. -/
def unpin (v : Value) (b : BridgeState σ η κ) : BridgeState σ η κ :=
  { b with handles := b.handles.unpinAll v.handles }

/-- Stores a binding; what the one before pinned is let go after its own context is pinned. -/
def registerBinding (binding : CallbackBinding) (b : BridgeState σ η κ) : BridgeState σ η κ :=
  let previous := b.callbacks.find? binding.widget
  let b := { b.pin binding.context with callbacks := b.callbacks.register binding }
  match previous with
  | some previous => b.unpin previous.context
  | none => b

/-- Destroys a widget and drops its binding. -/
def destroyWidget (id : WidgetId) (b : BridgeState σ η κ) :
    Except BridgeError Unit × BridgeState σ η κ :=
  match b.widgets.destroy id with
  | .error e => (.error e, b)
  | .ok widgets =>
    let binding := b.callbacks.find? id
    let b := { b with widgets := widgets, callbacks := b.callbacks.remove id }
    match binding with
    | some binding => (.ok (), b.unpin binding.context)
    | none => (.ok (), b)

end BridgeState
end ScriptBridge
