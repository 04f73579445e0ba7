/-
  ScriptBridge/Widget/Lifecycle.lean
  ==================================
  **Kinds of widgets and the stages of their life.**

  A widget is unborn, then created, then usually placed, and at last destroyed.
  It only moves forward, one allowed step at a time.
-/
import ScriptBridge.Number.Word
import ScriptBridge.Value.Basic

namespace ScriptBridge

inductive WidgetKind where
  | button
  | label
  | input
  | table
deriving DecidableEq, Repr

namespace WidgetKind

def name : WidgetKind → String
  | .button => "button"
  | .label => "label"
  | .input => "input"
  | .table => "table"

/-- The displayed text of the widget may be replaced. -/
def supportsText : WidgetKind → Bool
  | .table => false
  | _ => true

/-- The platform sizes the widget on its own, not from its text. -/
def autoMeasured : WidgetKind → Bool
  | .input | .table => true
  | _ => false

end WidgetKind

/-- The stage of a widget's life. -/
inductive WidgetState where
  | unborn
  | created
  | placed
  | destroyed
deriving DecidableEq, Repr

/-- A step that is not allowed. -/
structure LifecycleError where
  id : WidgetId
  source : WidgetState
  target : WidgetState
deriving DecidableEq, Repr

namespace WidgetState

def name : WidgetState → String
  | .unborn => "unborn"
  | .created => "created"
  | .placed => "placed"
  | .destroyed => "destroyed"

/-- The name of a stage at the start of a word. -/
def title : WidgetState → String
  | .unborn => "Unborn"
  | .created => "Created"
  | .placed => "Placed"
  | .destroyed => "Destroyed"

/-- The allowed steps. -/
def allows : WidgetState → WidgetState → Bool
  | .unborn, .created => true
  | .created, .placed => true
  | .created, .destroyed => true
  | .placed, .destroyed => true
  | _, _ => false

/-- Takes the step to a stage, or says why not. -/
def advance (s : WidgetState) (id : WidgetId) (target : WidgetState) :
    Except LifecycleError WidgetState :=
  if s.allows target then .ok target else .error ⟨id, s, target⟩

/-- The widget exists on the platform. -/
def isLive : WidgetState → Bool
  | .created | .placed => true
  | _ => false

end WidgetState

def LifecycleError.message (e : LifecycleError) : String :=
  "widget " ++ Word.text e.id ++ " cannot move from " ++ e.source.title ++ " to " ++ e.target.title

end ScriptBridge
