/-
  ScriptBridge/Bridge/Api.lean
  ============================
  **A bridge as its owner uses it.**

  A bridge exposes at most one callback object, under a name that is an
  identifier and none of the names that a dispatch puts in scope.
-/
import ScriptBridge.Bridge.Evaluate

namespace ScriptBridge

/-- Why a bridge cannot be made. -/
inductive ApiError where
  | invalidExposedName (name : String)
  | reservedName (name : String)
deriving DecidableEq, Repr

namespace ApiError

def message : ApiError → String
  | .invalidExposedName name => "Callback name " ++ quoted name ++ " is not a valid script identifier."
  | .reservedName name => "Callback name " ++ quoted name ++ " is reserved by the bridge."

def code : ApiError → String
  | .invalidExposedName _ => "API_INVALID_EXPOSED_NAME"
  | .reservedName _ => "API_RESERVED_NAME"

end ApiError

/-- The name of the callback object when none is given. -/
def defaultExposedName : String := "callback"

/-- The names that the scope of a dispatch has. -/
def reservedNames : List String := ["sys", "ctx", "ui", "event"]

/-- A letter or an underscore, then letters, digits and underscores, all ASCII. -/
def isIdentifier (name : String) : Bool :=
  match name.toList with
  | [] => false
  | c :: rest =>
    (Text.isLetter c || c == '_') && rest.all fun c => Text.isLetter c || Text.isDigit c || c == '_'

def checkExposedName (name : String) : Except ApiError Unit :=
  if !isIdentifier name then .error (.invalidExposedName name)
  else if reservedNames.contains name then .error (.reservedName name)
  else .ok ()

/-- A bridge: what never changes about it, and its state. -/
structure Bridge (σ η κ : Type) where
  setting : Setting σ η κ
  state : BridgeState σ η κ

namespace Bridge

variable {σ η κ : Type} [DecidableEq κ]

/-- A new bridge; a callback object needs a usable name. -/
def start (platform : Platform σ) (host : Host η κ) (engine : Engine) (layout : LayoutConfig)
    (callback : Option (ObjectRef κ)) (name : Option String) (p : σ) (h : η) (counters : Counters) :
    Except ApiError (Bridge σ η κ) :=
  let state := BridgeState.initial p h counters
  match callback with
  | none => .ok ⟨⟨platform, host, engine, layout, none⟩, state⟩
  | some o =>
    let name := name.getD defaultExposedName
    match checkExposedName name with
    | .error e => .error e
    | .ok () => .ok ⟨⟨platform, host, engine, layout, some (name, o)⟩, state⟩

def evaluate (bridge : Bridge σ η κ) (program : Program) (bindings : List (String × HostValue κ)) :
    Status × Bridge σ η κ :=
  let (status, state) := bridge.setting.owner.evaluate [] program bindings bridge.state
  (status, { bridge with state := state })

/-- Fires a widget; `none` when it has no logic.  A plain click has the event nil. -/
def dispatch (bridge : Bridge σ η κ) (id : WidgetId) (event : Value) :
    Option Status × Bridge σ η κ :=
  let (status, state) :=
    Setting.dispatchBy (bridge.setting.owner.evaluate []) id event bridge.state
  (status, { bridge with state := state })

def invoke (bridge : Bridge σ η κ) (handle : ObjectHandle) (method : String) (args : List Value) :
    Except BridgeError Value × Bridge σ η κ :=
  let (result, state) := bridge.setting.owner.invoke [] handle method args bridge.state
  (result, { bridge with state := state })

def destroy (bridge : Bridge σ η κ) (id : WidgetId) : Except BridgeError Unit × Bridge σ η κ :=
  let (result, state) := bridge.state.destroyWidget id
  (result, { bridge with state := state })

def retain (bridge : Bridge σ η κ) (handle : ObjectHandle) : Bool × Bridge σ η κ :=
  let (known, state) := bridge.state.retain handle
  (known, { bridge with state := state })

def release (bridge : Bridge σ η κ) (handle : ObjectHandle) : Bool × Bridge σ η κ :=
  let (known, state) := bridge.state.release handle
  (known, { bridge with state := state })

/-- Adopts an object and pins it, so that it stays until it is released. -/
def hold (bridge : Bridge σ η κ) (o : ObjectRef κ) : ObjectHandle × Bridge σ η κ :=
  let (handle, state) := bridge.state.adopt bridge.setting.family o
  (handle, { bridge with state := (state.retain handle).2 })

def liveHandles (bridge : Bridge σ η κ) : Nat := bridge.state.handles.size

/-- The last widget created under a name. -/
def findWidget (bridge : Bridge σ η κ) (name : String) : Option WidgetHandle :=
  (bridge.state.widgets.findNamed? name).map fun e => e.2.handle e.1

def widget (bridge : Bridge σ η κ) (id : WidgetId) : Option WidgetRecord :=
  bridge.state.widgets.find? id

def hasBinding (bridge : Bridge σ η κ) (id : WidgetId) : Bool :=
  (bridge.state.callbacks.find? id).isSome

end Bridge
end ScriptBridge
