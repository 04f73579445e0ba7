/-
  ScriptBridge/Proofs/Platform/Shift.lean
  =======================================
  **What two runs with shifted widget ids record.**

  The recorder answers both runs alike: ids only show in its events and in the
  text of a refusal.  `Recorders` says that the second recorder has seen the
  events of the first about the corresponding widgets, after those that it held
  already.  Numbered by first appearance, the events are the same
  (`normalizeWidgets_map_moveEvent`).
-/
import ScriptBridge.Platform.Recorder
import ScriptBridge.Proofs.Platform.NormalForm
import ScriptBridge.Proofs.Widget.Shift

namespace ScriptBridge

/-- Both outcomes are results or both are errors. -/
inductive Outcomes {ε α : Type} (E : ε → ε → Prop) (R : α → α → Prop) :
    Except ε α → Except ε α → Prop where
  | ok {a a' : α} : R a a' → Outcomes E R (.ok a) (.ok a')
  | error {e e' : ε} : E e e' → Outcomes E R (.error e) (.error e')

namespace Shift

variable (s : Shift)

/-! ### Events -/

/-- The event about the corresponding widget. -/
def moveEvent (e : PlatformEvent) : PlatformEvent :=
  match e.widget? with
  | some id => e.withWidget (s.move id)
  | none => e

theorem moveEvent_eq_self (h : s.second = s.first) (e : PlatformEvent) : s.moveEvent e = e := by
  cases e <;> simp [moveEvent, PlatformEvent.widget?, PlatformEvent.withWidget, s.move_eq_self h]

theorem moveEvent_eq_rename (e : PlatformEvent) : s.moveEvent e = e.rename s.move := by
  cases e <;> rfl

/-- Where the ids started does not show in the numbers. -/
theorem normalizeWidgets_map_moveEvent (events : List PlatformEvent) :
    normalizeWidgets (events.map s.moveEvent) = normalizeWidgets events := by
  have hinj : Function.Injective s.move := fun _ _ => s.move_inj.mp
  rw [funext s.moveEvent_eq_rename]
  exact normalizeWidgets_map_rename hinj.injOn

/-! ### Recorders -/

/-- The second recorder has seen what the first has, after the events that it held. -/
structure Recorders (held : List PlatformEvent) (r r' : Recorder) : Prop where
  window : r'.window = r.window
  assets : r'.assets = r.assets
  created : r'.created = r.created.map s.move
  events : r'.events = held ++ r.events.map s.moveEvent

/-- Two refusals that differ at most in the widget that they name. -/
inductive Refusals : PlatformError → PlatformError → Prop where
  | same (e : PlatformError) : Refusals e e
  | about (operation before : String) (id : WidgetId) :
      Refusals ⟨operation, before ++ Word.text id⟩ ⟨operation, before ++ Word.text (s.move id)⟩

namespace Recorders

variable {s} {held : List PlatformEvent} {r r' : Recorder} {id : WidgetId} {e : PlatformEvent}

theorem record (h : s.Recorders held r r') (e : PlatformEvent) :
    s.Recorders held (r.record e) (r'.record (s.moveEvent e)) where
  window := h.window
  assets := h.assets
  created := h.created
  events := by simp only [Recorder.record, h.events, List.map_append, List.map_cons, List.map_nil,
    List.append_assoc]

theorem recordCreation (h : s.Recorders held r r') (id : WidgetId) (e : PlatformEvent) :
    s.Recorders held (r.recordCreation id e) (r'.recordCreation (s.move id) (s.moveEvent e)) where
  window := h.window
  assets := h.assets
  created := by rw [Recorder.recordCreation, Recorder.recordCreation, h.created, List.map_cons]
  events := (h.record e).events

theorem read (h : s.Recorders held r r') (files : FileTree) (path : String) :
    ((Recorder.platform files).read path r').1 = ((Recorder.platform files).read path r).1 ∧
      s.Recorders held ((Recorder.platform files).read path r).2
        ((Recorder.platform files).read path r').2 := by
  simp only [Recorder.platform, h.assets]
  exact ⟨trivial, h.record (.read path _)⟩

theorem askWindow (h : s.Recorders held r r') (files : FileTree) (width height : Int64) :
    ((Recorder.platform files).window width height r').1 =
        ((Recorder.platform files).window width height r).1 ∧
      s.Recorders held ((Recorder.platform files).window width height r).2
        ((Recorder.platform files).window width height r').2 := by
  simp only [Recorder.platform, h.window]
  exact ⟨trivial, h.record (.window _)⟩

theorem print (h : s.Recorders held r r') (files : FileTree) (line : String) :
    s.Recorders held ((Recorder.platform files).print line r) ((Recorder.platform files).print line r') :=
  h.record (.print line)

/-- A creation is measured, or refused, the same way. -/
theorem create (h : s.Recorders held r r') (files : FileTree) (id : WidgetId) (plan : Blueprint) :
    ((Recorder.platform files).create (s.move id) plan r').1 =
        ((Recorder.platform files).create id plan r).1 ∧
      s.Recorders held ((Recorder.platform files).create id plan r).2
        ((Recorder.platform files).create (s.move id) plan r').2 := by
  have hhalf : r'.halfWindow = r.halfWindow := by rw [Recorder.halfWindow, Recorder.halfWindow, h.window]
  cases plan with
  | button frame text image =>
    simp only [Recorder.platform, Recorder.create, h.assets]
    split
    · exact ⟨rfl, h⟩
    · exact ⟨rfl, h.recordCreation id (.button id _ text image)⟩
  | label origin text => exact ⟨rfl, h.recordCreation id (.label id origin text)⟩
  | input origin =>
    simp only [Recorder.platform, Recorder.create, hhalf]
    exact ⟨trivial, h.recordCreation id (.input id origin)⟩
  | table frame values =>
    simp only [Recorder.platform, Recorder.create, hhalf]
    exact ⟨trivial, h.recordCreation id (.table id _ values)⟩

theorem onWidget (h : s.Recorders held r r') (operation : String) (id : WidgetId) (e : PlatformEvent) :
    Outcomes s.Refusals Eq (Recorder.onWidget operation id e r).1
        (Recorder.onWidget operation (s.move id) (s.moveEvent e) r').1 ∧
      s.Recorders held (Recorder.onWidget operation id e r).2
        (Recorder.onWidget operation (s.move id) (s.moveEvent e) r').2 := by
  have hcontains : r'.created.contains (s.move id) = r.created.contains id := by
    rw [h.created, List.contains_eq_mem, List.contains_eq_mem]
    simp
  unfold Recorder.onWidget
  rw [hcontains]
  by_cases hcreated : r.created.contains id
  · rw [if_pos hcreated, if_pos hcreated]
    exact ⟨.ok rfl, h.record e⟩
  · rw [if_neg hcreated, if_neg hcreated]
    exact ⟨.error (.about operation "no widget " id), h⟩

theorem place (h : s.Recorders held r r') (files : FileTree) (id : WidgetId) (frame : Frame) :
    Outcomes s.Refusals Eq ((Recorder.platform files).place id frame r).1
        ((Recorder.platform files).place (s.move id) frame r').1 ∧
      s.Recorders held ((Recorder.platform files).place id frame r).2
        ((Recorder.platform files).place (s.move id) frame r').2 :=
  h.onWidget "place" id (.place id frame)

theorem setText (h : s.Recorders held r r') (files : FileTree) (id : WidgetId) (text : String) :
    s.Recorders held ((Recorder.platform files).setText id text r).2
      ((Recorder.platform files).setText (s.move id) text r').2 :=
  (h.onWidget "set_text" id (.setText id text)).2

end Recorders
end Shift
end ScriptBridge
