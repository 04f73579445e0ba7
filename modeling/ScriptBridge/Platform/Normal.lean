/-
  ScriptBridge/Platform/Normal.lean
  =================================
  **Recordings that do not depend on where the widget ids started.**

  Widget ids come from a counter that a whole process shares.  In a normal
  recording the ids are 1, 2, 3 and so on in the order in which they first
  appear.
-/
import ScriptBridge.Platform.Event

namespace ScriptBridge

/-- The ids seen so far, with one more, in order of first appearance. -/
def noteWidget (seen : List WidgetId) (id : WidgetId) : List WidgetId :=
  if id ∈ seen then seen else seen ++ [id]

/-- The place of an id in the order of first appearance, counted from one. -/
def widgetNumber (seen : List WidgetId) (id : WidgetId) : WidgetId := Int64.ofNat (seen.idxOf id + 1)

/-- Numbers the widgets of events, after some ids were seen. -/
def normalizeFrom (seen : List WidgetId) : List PlatformEvent → List PlatformEvent
  | [] => []
  | e :: rest =>
    match e.widget? with
    | none => e :: normalizeFrom seen rest
    | some id =>
      let seen := noteWidget seen id
      e.withWidget (widgetNumber seen id) :: normalizeFrom seen rest

/-- The events with their widgets numbered by first appearance. -/
def normalizeWidgets (events : List PlatformEvent) : List PlatformEvent := normalizeFrom [] events

end ScriptBridge
