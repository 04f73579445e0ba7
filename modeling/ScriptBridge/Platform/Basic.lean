/-
  ScriptBridge/Platform/Basic.lean
  ================================
  **The platform that shows widgets.**

  The bridge picks the ids, the platform measures: it answers a creation with
  the size that the widget takes.  Every operation but a window request and a
  print may be refused.  A platform is given by what it answers in each of its
  states.
-/
import ScriptBridge.Files.Tree
import ScriptBridge.Layout.Geometry
import ScriptBridge.Widget.Lifecycle

namespace ScriptBridge

/-- An operation that the platform refused. -/
structure PlatformError where
  operation : String
  message : String
deriving DecidableEq, Repr

def PlatformError.text (e : PlatformError) : String := e.operation ++ " failed: " ++ e.message

/-- What the platform is asked to build. -/
inductive Blueprint where
  | button (frame : Frame) (text image : Option String)
  | label (origin : Point) (text : String)
  | input (origin : Point)
  | table (frame : Frame) (values : List Value)
deriving DecidableEq, Repr

namespace Blueprint

def kind : Blueprint → WidgetKind
  | .button .. => .button
  | .label .. => .label
  | .input .. => .input
  | .table .. => .table

/-- Where the widget is asked to stand. -/
def origin : Blueprint → Point
  | .button frame _ _ => frame.origin
  | .label origin _ => origin
  | .input origin => origin
  | .table frame _ => frame.origin

end Blueprint

/-- The answers of a platform with states `σ`. -/
structure Platform (σ : Type) where
  /-- Reads an asset. -/
  read : String → σ → Except ReadError String × σ
  /-- Asks for a window size; the platform returns the size of the window. -/
  window : Int64 → Int64 → σ → Size × σ
  create : WidgetId → Blueprint → σ → Except PlatformError Size × σ
  place : WidgetId → Frame → σ → Except PlatformError Unit × σ
  setText : WidgetId → String → σ → Except PlatformError Unit × σ
  print : String → σ → σ

end ScriptBridge
