/-
  ScriptBridge/Proofs/Platform/Recorder.lean
  ==========================================
  **What the recording platform writes down.**

  A creation that is accepted leaves one event of the widget's id and kind, and a
  refused one leaves nothing.  An operation on a widget leaves its event if the
  widget was created here.  Nothing else is about a widget.
-/
import ScriptBridge.Platform.Recorder

namespace ScriptBridge

namespace PlatformEvent

/-- The widget that the event creates, with its kind. -/
def created? : PlatformEvent → Option (WidgetId × WidgetKind)
  | .button id .. => some (id, .button)
  | .label id .. => some (id, .label)
  | .input id _ => some (id, .input)
  | .table id .. => some (id, .table)
  | _ => none

@[simp] theorem created?_place (id : WidgetId) (frame : Frame) : (place id frame).created? = none := rfl

@[simp] theorem created?_setText (id : WidgetId) (text : String) :
    (setText id text).created? = none := rfl

/-- The frame that the event gives a widget. -/
def frameOf? (id : WidgetId) : PlatformEvent → Option Frame
  | .place id' frame => if id' = id then some frame else none
  | _ => none

theorem widget?_of_created? {e : PlatformEvent} {id : WidgetId} {kind : WidgetKind}
    (h : e.created? = some (id, kind)) : e.widget? = some id := by
  cases e <;> simp_all [created?, widget?]

theorem created?_of_widget?_none {e : PlatformEvent} (h : e.widget? = none) : e.created? = none := by
  cases e <;> simp_all [created?, widget?]

theorem frameOf?_of_widget?_ne {e : PlatformEvent} {id : WidgetId} (h : e.widget? ≠ some id) :
    e.frameOf? id = none := by
  cases e <;> simp_all [frameOf?, widget?]

/-- The frame of the last place event of a widget. -/
def lastFrame? (id : WidgetId) (history : List PlatformEvent) : Option Frame :=
  history.reverse.findSome? (frameOf? id)

theorem lastFrame?_append (id : WidgetId) (history new : List PlatformEvent) :
    lastFrame? id (history ++ new) = (lastFrame? id new).or (lastFrame? id history) := by
  rw [lastFrame?, List.reverse_append, List.findSome?_append]
  rfl

theorem lastFrame?_of_others {id : WidgetId} {new : List PlatformEvent}
    (h : ∀ e ∈ new, e.widget? ≠ some id) : lastFrame? id new = none := by
  rw [lastFrame?, List.findSome?_eq_none_iff]
  exact fun e he => frameOf?_of_widget?_ne (h e (List.mem_reverse.mp he))

end PlatformEvent

namespace Recorder

theorem create_cases (files : FileTree) (id : WidgetId) (plan : Blueprint) (r : Recorder) :
    (∃ e, create files id plan r = (.error e, r)) ∨
    (∃ size e, create files id plan r = (.ok size, r.recordCreation id e) ∧
      e.created? = some (id, plan.kind)) := by
  cases plan with
  | button frame text image =>
    simp only [create]
    cases image.filter fun path => !hasAsset files r.assets path with
    | some path => exact Or.inl ⟨_, rfl⟩
    | none => exact Or.inr ⟨_, _, rfl, rfl⟩
  | label origin text => exact Or.inr ⟨_, _, rfl, rfl⟩
  | input origin => exact Or.inr ⟨_, _, rfl, rfl⟩
  | table frame values => exact Or.inr ⟨_, _, rfl, rfl⟩

theorem onWidget_of_created {id : WidgetId} {r : Recorder} (h : r.created.contains id = true)
    (operation : String) (e : PlatformEvent) : onWidget operation id e r = (.ok (), r.record e) :=
  if_pos h

theorem onWidget_cases (operation : String) (id : WidgetId) (e : PlatformEvent) (r : Recorder) :
    (∃ fault, onWidget operation id e r = (.error fault, r)) ∨
      onWidget operation id e r = (.ok (), r.record e) := by
  unfold onWidget
  split
  · exact Or.inr rfl
  · exact Or.inl ⟨_, rfl⟩

end Recorder
end ScriptBridge
