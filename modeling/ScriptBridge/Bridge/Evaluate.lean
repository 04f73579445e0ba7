/-
  ScriptBridge/Bridge/Evaluate.lean
  =================================
  **Running programs on a bridge.**

  An evaluation opens a handle scope, puts its bindings, the system object and
  the callback object in the scope of the script, runs the script against the
  bridge, and closes the handle scope however the run ended.

  A host method may use the bridge while it runs, so evaluations nest.  They are
  defined level by level: a level is built from the level below it, which serves
  the host methods that its scripts call.  An object whose method is running
  cannot be called again before that method returns.
-/
import ScriptBridge.Bridge.System
import ScriptBridge.Script.Engine
import ScriptBridge.Script.Marshal

namespace ScriptBridge

/-- Everything about a bridge that never changes. -/
structure Setting (σ η κ : Type) where
  platform : Platform σ
  host : Host η κ
  engine : Engine
  layout : LayoutConfig
  /-- The callback object and the name that scripts know it by. -/
  callback : Option (String × ObjectRef κ)

/-- The uses of a bridge that run scripts or host methods.  Each is told the objects whose methods
    are running. -/
structure Reentry (σ η κ : Type) where
  evaluate : List (ObjectRef κ) → Program → List (String × HostValue κ) → BridgeState σ η κ →
    Status × BridgeState σ η κ
  invoke : List (ObjectRef κ) → ObjectHandle → String → List Value → BridgeState σ η κ →
    Except BridgeError Value × BridgeState σ η κ

namespace Setting

variable {σ η κ : Type} [DecidableEq κ]

/-! ### Classes -/

/-- What the classes that a host method returns are to the bridge. -/
def describeHost (s : Setting σ η κ) (k : κ) : ClassDescription (ClassKey κ) :=
  let d := s.host.classes.describe k
  ⟨d.table, d.returns.map .host⟩

/-- The classes that the bridge can see. -/
def family (s : Setting σ η κ) : ClassFamily (ClassKey κ) where
  all := .system :: s.host.classes.all.map .host
  describe
    | .system => ⟨systemTable, []⟩
    | .host k => s.describeHost k
  mem_all
    | .system => by simp
    | .host k => by simp [s.host.classes.mem_all k]

def tableOf (s : Setting σ η κ) (o : ObjectRef κ) : MethodTable := (s.family.describe o.classKey).table

/-- What an object that is in use answers. -/
def busy (t : MethodTable) : HostError := .failed (t.name ++ " is busy in another call")

/-! ### Host methods -/

/-- What the logic of a widget finds in its scope: the names of its render, then the fixed names. -/
def dispatchScope (binding : CallbackBinding) (event : Value) : List (String × HostValue κ) :=
  binding.names.entries.map (fun e => (e.1, .value e.2.toValue)) ++
    [("ctx", .value binding.context), ("ui", .value binding.names.toValue), ("event", .value event)]

/-- Fires a widget by an evaluator. -/
def dispatchBy (evaluate : Program → List (String × HostValue κ) → BridgeState σ η κ →
    Status × BridgeState σ η κ) (id : WidgetId) (event : Value) (b : BridgeState σ η κ) :
    Option Status × BridgeState σ η κ :=
  match b.callbacks.fire id event fun binding event =>
      evaluate binding.logic (dispatchScope binding event) b with
  | some (status, b) => (some status, b)
  | none => (none, b)

def serveHost (inner : Reentry σ η κ) (running : List (ObjectRef κ)) :
    (r : HostRequest η κ) → BridgeState σ η κ → HostRequest.Reply r × BridgeState σ η κ
  | .getState, b => (b.host, b)
  | .setState h, b => ((), { b with host := h })
  | .evaluate program bindings, b => inner.evaluate running program bindings b
  | .dispatch id event, b => dispatchBy (inner.evaluate running) id event b
  | .destroy id, b => b.destroyWidget id
  | .invoke handle method args, b => inner.invoke running handle method args b
  | .retain h, b => b.retain h
  | .release h, b => b.release h

/-- Runs the method at a position of an object's table. -/
def runMethod (s : Setting σ η κ) (inner : Reentry σ η κ) (running : List (ObjectRef κ))
    (o : ObjectRef κ) (index : Nat) (args : Args) (b : BridgeState σ η κ) :
    Except HostError (HostValue κ) × BridgeState σ η κ :=
  match o with
  | .system =>
    match SystemMethod.all[index]? with
    | none => (.error (.failed "no such method"), b)
    | some method =>
      match b.systemCall s.platform s.layout method args with
      | (.ok v, b) => (.ok (.value v), b)
      | (.error e, b) => (.error e, b)
  | .host k number =>
    if running.contains o then (.error (busy (s.tableOf o)), b)
    else
      let (completion, b) := (s.host.run k number index args).run (serveHost inner (o :: running)) b
      (completion.toExcept, b)

/-- Calls a method on a live handle; an object that comes back is adopted. -/
def invokeOver (s : Setting σ η κ) (inner : Reentry σ η κ) (running : List (ObjectRef κ))
    (handle : ObjectHandle) (method : String) (args : List Value) (b : BridgeState σ η κ) :
    Except BridgeError Value × BridgeState σ η κ :=
  match b.handles.find? handle with
  | none => (.error (.staleHandle handle), b)
  | some o =>
    match (s.tableOf o).call method args (s.runMethod inner running o) b with
    | (.error e, b) => (.error e, b)
    | (.ok v, b) =>
      let (v, b) := b.lower s.family v
      (.ok v, b)

def readField (s : Setting σ η κ) (running : List (ObjectRef κ)) (handle : ObjectHandle)
    (field : String) (b : BridgeState σ η κ) : Except BridgeError Value :=
  match b.handles.find? handle with
  | none => .error (.staleHandle handle)
  | some o =>
    let t := s.tableOf o
    match t.fieldIndex? field, o with
    | some index, .host k number =>
      let outcome :=
        if running.contains o then .error (busy t)
        else (s.host.read k number index b.host).toExcept
      outcome.mapError (t.failure field)
    | _, _ => .error (.methodNotFound t.name field 0)

/-! ### Scripts -/

/-- A value, or the error, as the script receives it. -/
def reply (result : Except BridgeError Value) : Except Data Data :=
  match result with
  | .error e => .error e.toData
  | .ok v =>
    match v.marshal with
    | .ok d => .ok d
    | .error e => .error (BridgeError.marshal e).toData

def invokeScript (s : Setting σ η κ) (inner : Reentry σ η κ) (running : List (ObjectRef κ))
    (handle : ObjectHandle) (method : String) (args : List Data) (b : BridgeState σ η κ) :
    Except Data Data × BridgeState σ η κ :=
  match Data.unmarshalAll args with
  | .error e => (.error (BridgeError.marshal e).toData, b)
  | .ok values =>
    let (result, b) := s.invokeOver inner running handle method values b
    (reply result, b)

/-- Runs a function of the bridge.  A function is only called with arguments that it was selected
    for; any others are refused. -/
def callNative (s : Setting σ η κ) (inner : Reentry σ η κ) (running : List (ObjectRef κ))
    (native : Native) (args : List Data) (b : BridgeState σ η κ) :
    Except Data Data × BridgeState σ η κ :=
  match native, args with
  | .method name, .handle h :: rest => s.invokeScript inner running h name rest b
  | .invoke, [.handle h, .string name, .array rest] => s.invokeScript inner running h name rest b
  | .field name, [.handle h] => (reply (s.readField running h name b), b)
  | .retain, [.handle h] =>
    let (known, b) := b.retain h
    (.ok (.bool known), b)
  | .describe, [.handle _] => (.ok (.string ObjectHandle.text), b)
  | .ui, [context, description] =>
    match context.unmarshal, description.unmarshal with
    | .ok context, .ok description =>
      let (output, b) := b.render s.platform s.layout context description
      (reply (output.map RenderOutput.toValue), b)
    | .error e, _ => (.error (BridgeError.marshal e).toData, b)
    | _, .error e => (.error (BridgeError.marshal e).toData, b)
  | .uiSet, [target, text] =>
    match target.unmarshal, text.unmarshal with
    | .ok target, .ok text => (.ok .unit, b.setText s.platform target text)
    | .error e, _ => (.error (BridgeError.marshal e).toData, b)
    | _, .error e => (.error (BridgeError.marshal e).toData, b)
  | _, _ => (.error (BridgeError.eval "no such function").toData, b)

def serveScript (s : Setting σ η κ) (inner : Reentry σ η κ) (running : List (ObjectRef κ)) :
    (r : ScriptRequest) → BridgeState σ η κ → ScriptRequest.Reply r × BridgeState σ η κ
  | .call native args, b => s.callNative inner running native args b
  | .print line, b => ((), { b with platform := s.platform.print line b.platform })

/-- Puts bindings in scope; `none` when one of them cannot cross the bridge. -/
def bindScope (s : Setting σ η κ) :
    List (String × HostValue κ) → BridgeState σ η κ → Option Scope × BridgeState σ η κ
  | [], b => (some [], b)
  | (name, v) :: rest, b =>
    let (v, b) := b.lower s.family v
    match v.marshal with
    | .error _ => (none, b)
    | .ok d =>
      match s.bindScope rest b with
      | (none, b) => (none, b)
      | (some scope, b) => (some ((name, d) :: scope), b)

/-- The objects that every script sees, as the last bindings. -/
def fixedBindings (s : Setting σ η κ) : List (String × HostValue κ) :=
  ("sys", .object .system) ::
    match s.callback with
    | some (name, o) => [(name, .object o)]
    | none => []

/-- Runs a source text inside the open handle scope. -/
def runSource (s : Setting σ η κ) (inner : Reentry σ η κ) (running : List (ObjectRef κ))
    (source : String) (bindings : List (String × HostValue κ)) (b : BridgeState σ η κ) :
    Status × BridgeState σ η κ :=
  match s.bindScope (bindings ++ s.fixedBindings) b with
  | (none, b) => (.runtimeError, b)
  | (some scope, b) =>
    match s.engine.start ⟨b.classes.all⟩ scope source with
    | none => (.parseError, b)
    | some script =>
      let (completed, b) := script.run (s.serveScript inner running) b
      (if completed then .ok else .runtimeError, b)

def evaluateOver (s : Setting σ η κ) (inner : Reentry σ η κ) (running : List (ObjectRef κ))
    (program : Program) (bindings : List (String × HostValue κ)) (b : BridgeState σ η κ) :
    Status × BridgeState σ η κ :=
  match program.decode with
  | .error _ => (.badProgram, b)
  | .ok source =>
    let (token, b) := b.openScope
    let (status, b) := s.runSource inner running source bindings b
    (status, b.closeScope token)

/-! ### Levels -/

/-- The level below all others: it runs nothing. -/
def exhausted : Reentry σ η κ where
  evaluate _ program _ b :=
    match program.decode with
    | .error _ => (.badProgram, b)
    | .ok _ => (.runtimeError, b)
  invoke _ _ _ _ b := (.error (.eval "calls are nested too deeply"), b)

/-- The uses of the bridge with so many levels of nesting. -/
def level (s : Setting σ η κ) : Nat → Reentry σ η κ
  | 0 => exhausted
  | n + 1 =>
    let inner := s.level n
    { evaluate := s.evaluateOver inner, invoke := s.invokeOver inner }

/-- How deeply evaluations may nest. -/
def maxLevels : Nat := 256

/-- The uses of the bridge for its owner. -/
def owner (s : Setting σ η κ) : Reentry σ η κ := s.level maxLevels

end Setting
end ScriptBridge
