/-
  ScriptBridge/Bridge/System.lean
  ===============================
  **The object that every script sees: assets, the window and widgets.**

  Its methods are declared like those of a host class, and each runs on the
  state of the bridge.  An asset that cannot be read reads as an empty text.
-/
import ScriptBridge.Bridge.Render
import ScriptBridge.Text.Parts

namespace ScriptBridge

/-- A method of the system object. -/
inductive SystemMethod where
  | read
  | window
  | button
  | label
  | input
  | table
  | uiSet
  | uiPut
  | ui
  | log
deriving DecidableEq, Repr

namespace SystemMethod

def all : List SystemMethod :=
  [.read, .window, .button, .label, .input, .table, .uiSet, .uiPut, .ui, .log]

def declaration : SystemMethod → MethodDecl
  | .read => ⟨"read", [.string], none⟩
  | .window => ⟨"window", [.int, .int], none⟩
  | .button => ⟨"button", [.any, .int, .int, .int, .int, .any, .any, .any], none⟩
  | .label => ⟨"label", [.any, .int, .int, .any], none⟩
  | .input => ⟨"input", [.any, .int, .int], none⟩
  | .table => ⟨"table", [.any, .int, .int, .int, .int, .list, .any], none⟩
  | .uiSet => ⟨"ui_set", [.any, .any], none⟩
  | .uiPut => ⟨"ui_put", [.any, .int, .int, .int, .int], none⟩
  | .ui => ⟨"ui", [.any, .any], none⟩
  | .log => ⟨"log", [], some .any⟩

end SystemMethod

def systemTable : MethodTable := ⟨"sys", SystemMethod.all.map SystemMethod.declaration, []⟩

/-- The text that a value gives to a widget; nil gives none. -/
def labelText : Value → Option String
  | .nil => none
  | v => some v.text

/-- The logic that a value gives to a widget. -/
def logicOf (v : Value) : Except HostError (Option Program) :=
  match Program.Logic.ofValue v with
  | .absent => .ok none
  | .present program => .ok (some program)
  | .unreadable found => .error (.failed ("logic must be a string or bytes, found " ++ found))

/-- The frame that four arguments give, from a position on; negative sides count as zero. -/
def frameArgs (args : Args) (index : Nat) : Except MarshalError Frame := do
  let x ← args.int index
  let y ← args.int (index + 1)
  let width ← args.int (index + 2)
  let height ← args.int (index + 3)
  return .of ⟨x, y⟩ (.clamped width height)

/-- The point that two arguments give, from a position on. -/
def pointArgs (args : Args) (index : Nat) : Except MarshalError Point := do
  let x ← args.int index
  let y ← args.int (index + 1)
  return ⟨x, y⟩

/-- A step on the arguments of a method, whose faults are faults of the call. -/
def onArgs {α : Type} (x : Except MarshalError α) : Except HostError α := x.mapError .marshal

/-- The widget that a call of one of the four widget methods asks for, and its context. -/
def widgetArgs (kind : WidgetKind) (args : Args) : Except HostError (Value × WidgetPlan) := do
  match kind with
  | .button =>
    let frame ← onArgs (frameArgs args 1)
    let text ← onArgs (args.value 6)
    let image ← onArgs (args.string? 7)
    let context ← onArgs (args.value 0)
    let logic ← onArgs (args.value 5)
    let logic ← logicOf logic
    return (context, ⟨.button frame (labelText text) image, none, logic⟩)
  | .label =>
    let origin ← onArgs (pointArgs args 1)
    let text ← onArgs (args.value 3)
    let context ← onArgs (args.value 0)
    return (context, ⟨.label origin ((labelText text).getD ""), none, none⟩)
  | .input =>
    let origin ← onArgs (pointArgs args 1)
    let context ← onArgs (args.value 0)
    return (context, ⟨.input origin, none, none⟩)
  | .table =>
    let frame ← onArgs (frameArgs args 1)
    let values ← onArgs (args.list 5)
    let context ← onArgs (args.value 0)
    let logic ← onArgs (args.value 6)
    let logic ← logicOf logic
    return (context, ⟨.table frame values, none, logic⟩)

namespace BridgeState

variable {σ η κ : Type}

/-- What a method of the system object returns for the outcome of an operation. -/
def systemResult {α : Type} (f : α → Value) (outcome : Except BridgeError α × BridgeState σ η κ) :
    Except HostError Value × BridgeState σ η κ :=
  match outcome with
  | (.ok a, b) => (.ok (f a), b)
  | (.error e, b) => (.error (.bridge e), b)

/-- Runs a widget method: the script receives id, width and height. -/
def systemWidget (platform : Platform σ) (kind : WidgetKind) (args : Args) (b : BridgeState σ η κ) :
    Except HostError Value × BridgeState σ η κ :=
  match widgetArgs kind args with
  | .error e => (.error e, b)
  | .ok (context, plan) => systemResult WidgetHandle.toTriple (b.buildAlone platform context plan)

def systemCall (platform : Platform σ) (layout : LayoutConfig) (method : SystemMethod) (args : Args)
    (b : BridgeState σ η κ) : Except HostError Value × BridgeState σ η κ :=
  match method with
  | .read =>
    match args.string 0 with
    | .error e => (.error (.marshal e), b)
    | .ok path =>
      let (answer, p) := platform.read path b.platform
      (.ok (.string (answer.toOption.getD "")), { b with platform := p })
  | .window =>
    match pointArgs args 0 with
    | .error e => (.error (.marshal e), b)
    | .ok asked =>
      let (size, p) := platform.window asked.x asked.y b.platform
      (.ok (.list [.int size.width, .int size.height]), { b with platform := p })
  | .button => b.systemWidget platform .button args
  | .label => b.systemWidget platform .label args
  | .input => b.systemWidget platform .input args
  | .table => b.systemWidget platform .table args
  | .uiSet =>
    match args.value 0, args.value 1 with
    | .ok target, .ok text => (.ok (.list []), b.setText platform target text)
    | .error e, _ => (.error (.marshal e), b)
    | _, .error e => (.error (.marshal e), b)
  | .uiPut =>
    match frameArgs args 1, args.value 0 with
    | .ok frame, .ok target => systemResult (fun _ => .list []) (b.put platform target frame)
    | .error e, _ => (.error (.marshal e), b)
    | _, .error e => (.error (.marshal e), b)
  | .ui =>
    match args.value 0, args.value 1 with
    | .ok context, .ok description =>
      systemResult RenderOutput.toValue (b.render platform layout context description)
    | .error e, _ => (.error (.marshal e), b)
    | _, .error e => (.error (.marshal e), b)
  | .log =>
    match args.list 0 with
    | .error e => (.error (.marshal e), b)
    | .ok items =>
      (.ok .nil,
        { b with platform := platform.print (Text.join " " (items.map Value.text)) b.platform })

end BridgeState
end ScriptBridge
