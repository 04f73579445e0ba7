/-
  ScriptBridge/Widget/Table.lean
  ==============================
  **The record of every widget the platform was asked to create.**

  A record is made once, moves forward through the stages of a widget's life and
  is never removed.  A failing operation leaves the table as it is.  A name
  stands for the widget with the greatest id among those that carry it.
-/
import ScriptBridge.Error
import ScriptBridge.Layout.Geometry
import ScriptBridge.Widget.Lifecycle

namespace ScriptBridge

/-- What the bridge knows of one widget. -/
structure WidgetRecord where
  kind : WidgetKind
  state : WidgetState
  frame : Frame
  name : Option String
deriving DecidableEq, Repr

/-- The handle that the record stands for. -/
def WidgetRecord.handle (r : WidgetRecord) (id : WidgetId) : WidgetHandle :=
  ⟨id, r.frame.width, r.frame.height⟩

/-- All records, by id. -/
structure WidgetTable where
  records : List (WidgetId × WidgetRecord)
deriving DecidableEq, Repr

namespace WidgetTable

def empty : WidgetTable := ⟨[]⟩

def find? (t : WidgetTable) (id : WidgetId) : Option WidgetRecord := Assoc.find? id t.records

def set (t : WidgetTable) (id : WidgetId) (r : WidgetRecord) : WidgetTable :=
  ⟨Assoc.insert id r t.records⟩

/-- The stage of an id; one without a record is unborn. -/
def stateOf (t : WidgetTable) (id : WidgetId) : WidgetState :=
  match t.find? id with
  | some r => r.state
  | none => .unborn

def create (t : WidgetTable) (id : WidgetId) (kind : WidgetKind) (frame : Frame)
    (name : Option String) : Except LifecycleError WidgetTable :=
  match (t.stateOf id).advance id .created with
  | .ok state => .ok (t.set id ⟨kind, state, frame, name⟩)
  | .error e => .error e

/-- Places a widget; one that is placed already just moves. -/
def place (t : WidgetTable) (id : WidgetId) (frame : Frame) : Except BridgeError WidgetTable :=
  match t.find? id with
  | none => .error (.unknownWidget id)
  | some r =>
    if r.state = .placed then .ok (t.set id { r with frame := frame })
    else
      match r.state.advance id .placed with
      | .ok state => .ok (t.set id { r with state := state, frame := frame })
      | .error e => .error (.eval e.message)

def destroy (t : WidgetTable) (id : WidgetId) : Except BridgeError WidgetTable :=
  match t.find? id with
  | none => .error (.unknownWidget id)
  | some r =>
    match r.state.advance id .destroyed with
    | .ok state => .ok (t.set id { r with state := state })
    | .error e => .error (.eval e.message)

/-- The widget of the greatest id that carries a name. -/
def findNamed? (t : WidgetTable) (name : String) : Option (WidgetId × WidgetRecord) :=
  t.records.reverse.find? fun e => e.2.name == some name

def size (t : WidgetTable) : Nat := t.records.length

end WidgetTable
end ScriptBridge
