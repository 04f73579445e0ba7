/-
  ScriptBridge/Bridge/Render.lean
  ===============================
  **Descriptions becoming widgets.**

  A render walks a description in document order.  Each leaf takes the next id,
  is created by the platform, recorded, bound to its logic, and placed at its
  origin with the size that the platform measured.  A leaf that the platform
  refuses inside a container is skipped.  The bindings of one render have its
  context and its names in common: each of them always knows all names that the
  render has given so far.
-/
import ScriptBridge.Bridge.State
import ScriptBridge.Descriptor.Reader
import ScriptBridge.Platform.Basic

namespace ScriptBridge

/-- A widget to be made: its look, its name and its logic. -/
structure WidgetPlan where
  blueprint : Blueprint
  name : Option String
  logic : Option Program

/-- What a render amounts to so far: its names, and the widgets that were created with logic. -/
structure Rendering where
  names : NameTable
  bound : List WidgetId

def Rendering.empty : Rendering := ⟨.empty, []⟩

/-- The rendering after one more widget. -/
def Rendering.add (r : Rendering) (plan : WidgetPlan) (handle : WidgetHandle) : Rendering :=
  { names := r.names.add plan.name handle
    bound :=
      match plan.logic with
      | some _ => handle.id :: r.bound
      | none => r.bound }

/-- What a render hands back: the named widgets of a container, or the widget itself. -/
inductive RenderOutput where
  | names (table : NameTable)
  | leaf (handle : WidgetHandle)
deriving DecidableEq, Repr

def RenderOutput.toValue : RenderOutput → Value
  | .names table => table.toValue
  | .leaf handle => handle.toValue

/-- The widget that a leaf of a description asks for, at an origin. -/
def WidgetPlan.ofLeaf (kind : WidgetKind) (a : Attributes) (origin : Point) : WidgetPlan :=
  { blueprint :=
      match kind with
      | .button => .button (.unsized origin) a.text a.image
      | .label => .label origin (a.text.getD "")
      | .input => .input origin
      | .table => .table (.unsized origin) (a.list.getD [])
    name := a.name
    logic := a.logic }

def PlatformError.toBridge (e : PlatformError) : BridgeError := .invocation "hal" e.operation e.message

namespace BridgeState

variable {σ η κ : Type}

/-! ### One widget -/

/-- Binds the logic of a widget that may be without any. -/
def bindLogic (context : Value) (names : NameTable) (id : WidgetId) (logic : Option Program)
    (b : BridgeState σ η κ) : BridgeState σ η κ :=
  match logic with
  | some program => b.registerBinding ⟨id, context, program, names⟩
  | none => b

/-- Creates a widget under the next id.  Its logic is bound before it can be placed. -/
def create (platform : Platform σ) (context : Value) (names : NameTable) (plan : WidgetPlan)
    (b : BridgeState σ η κ) : Except BridgeError WidgetHandle × BridgeState σ η κ :=
  let (id, b) := b.freshWidget
  let (answer, p) := platform.create id plan.blueprint b.platform
  let b := { b with platform := p }
  match answer with
  | .error e => (.error e.toBridge, b)
  | .ok size =>
    match b.widgets.create id plan.blueprint.kind (.of plan.blueprint.origin size) plan.name with
    | .error e => (.error (.eval e.message), b)
    | .ok widgets =>
      let b := { b with widgets := widgets }
      (.ok ⟨id, size.width, size.height⟩, b.bindLogic context names id plan.logic)

/-- Moves a live widget to a frame. -/
def place (platform : Platform σ) (id : WidgetId) (frame : Frame) (b : BridgeState σ η κ) :
    Except BridgeError Unit × BridgeState σ η κ :=
  match b.widgets.find? id with
  | none => (.error (.unknownWidget id), b)
  | some r =>
    if r.state.isLive then
      let (answer, p) := platform.place id frame b.platform
      let b := { b with platform := p }
      match answer with
      | .error e => (.error e.toBridge, b)
      | .ok () =>
        match b.widgets.place id frame with
        | .error e => (.error e, b)
        | .ok widgets => (.ok (), { b with widgets := widgets })
    else (.error (.eval ("widget " ++ Word.text id ++ " was destroyed")), b)

/-- Tells the bindings of a rendering all of its names. -/
def shareNames (r : Rendering) (b : BridgeState σ η κ) : BridgeState σ η κ :=
  { b with callbacks := b.callbacks.shareNames r.bound r.names }

/-- Creates a widget and places it at its origin with the size that the platform measured. -/
def build (platform : Platform σ) (context : Value) (plan : WidgetPlan) (r : Rendering)
    (b : BridgeState σ η κ) : Except BridgeError WidgetHandle × Rendering × BridgeState σ η κ :=
  match b.create platform context r.names plan with
  | (.error e, b) => (.error e, r, b)
  | (.ok handle, b) =>
    let r := r.add plan handle
    let b := b.shareNames r
    let frame := Frame.of plan.blueprint.origin (Size.clamped handle.width handle.height)
    match b.place platform handle.id frame with
    | (.error e, b) => (.error e, r, b)
    | (.ok (), b) => (.ok handle, r, b)

/-- Builds a widget that shares its names with no other. -/
def buildAlone (platform : Platform σ) (context : Value) (plan : WidgetPlan) (b : BridgeState σ η κ) :
    Except BridgeError WidgetHandle × BridgeState σ η κ :=
  let (result, _, b) := b.build platform context plan .empty
  (result, b)

/-! ### Trees -/

/-- Where a child goes: in a column, a widget that the platform measures starts at the left edge. -/
def childOrigin (layout : LayoutConfig) (cursor : StackCursor) (kind : WidgetKind) : Point :=
  if cursor.axis = .vertical ∧ kind.autoMeasured = true then ⟨layout.padding, cursor.next.y⟩
  else cursor.next

mutual

/-- Renders a child of a container at a cursor; a refused leaf leaves the cursor alone. -/
def renderChild (platform : Platform σ) (layout : LayoutConfig) (context : Value)
    (cursor : StackCursor) (d : Descriptor) (r : Rendering) (b : BridgeState σ η κ) :
    StackCursor × Rendering × BridgeState σ η κ :=
  match d with
  | .leaf kind a =>
    match b.build platform context (.ofLeaf kind a (childOrigin layout cursor kind)) r with
    | (.ok handle, r, b) => (cursor.advance (.clamped handle.width handle.height), r, b)
    | (.error _, r, b) => (cursor, r, b)
  | .container axis _ children =>
    let (inner, r, b) :=
      renderChildren platform layout context (.start axis cursor.next layout.spacing) children r b
    (cursor.advance inner.finish, r, b)

/-- Renders the children of a container from a cursor on. -/
def renderChildren (platform : Platform σ) (layout : LayoutConfig) (context : Value)
    (cursor : StackCursor) (children : List Descriptor) (r : Rendering) (b : BridgeState σ η κ) :
    StackCursor × Rendering × BridgeState σ η κ :=
  match children with
  | [] => (cursor, r, b)
  | d :: rest =>
    let (cursor, r, b) := renderChild platform layout context cursor d r b
    renderChildren platform layout context cursor rest r b

end

/-- Renders a description at the root of the window. -/
def renderTree (platform : Platform σ) (layout : LayoutConfig) (context : Value) (d : Descriptor)
    (b : BridgeState σ η κ) : Except BridgeError RenderOutput × BridgeState σ η κ :=
  match d with
  | .leaf kind a =>
    let (result, b) := b.buildAlone platform context (.ofLeaf kind a layout.rootOrigin)
    (result.map .leaf, b)
  | .container axis _ children =>
    let (_, r, b) :=
      renderChildren platform layout context (.start axis layout.rootOrigin layout.spacing) children
        .empty b
    (.ok (.names r.names), b)

def render (platform : Platform σ) (layout : LayoutConfig) (context description : Value)
    (b : BridgeState σ η κ) : Except BridgeError RenderOutput × BridgeState σ η κ :=
  match Descriptor.ofValue description with
  | .error e => (.error (.descriptor e.message), b)
  | .ok (d, _) => b.renderTree platform layout context d

/-! ### Changing widgets -/

/-- The widget that a value refers to; a text is a name. -/
def target? (v : Value) (b : BridgeState σ η κ) : Option WidgetId :=
  match v with
  | .string name => (b.widgets.findNamed? name).map Prod.fst
  | v => v.widgetId?

/-- Replaces the text of a live widget that shows one; anything else is left alone. -/
def setText (platform : Platform σ) (target text : Value) (b : BridgeState σ η κ) :
    BridgeState σ η κ :=
  match b.target? target with
  | none => b
  | some id =>
    match b.widgets.find? id with
    | none => b
    | some r =>
      if r.state.isLive && r.kind.supportsText then
        { b with platform := (platform.setText id text.text b.platform).2 }
      else b

def put (platform : Platform σ) (target : Value) (frame : Frame) (b : BridgeState σ η κ) :
    Except BridgeError Unit × BridgeState σ η κ :=
  match b.target? target with
  | none => (.error (.marshal (.kindMismatch "widget" target.typeName)), b)
  | some id => b.place platform id frame

end BridgeState
end ScriptBridge
