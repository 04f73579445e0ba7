/-
  ScriptBridge/Proofs/Bridge/Build.lean
  =====================================
  **Everything that building, placing and destroying a widget can do.**

  A creation has three outcomes: the platform refuses, or the id has a record
  already, or the widget is recorded and bound to its logic.  Placing a live
  widget has two, and a widget that is not live is left alone.  Each lemma states
  all outcomes with the state that they leave, so that an invariant is carried
  through by a case split and a bridge operation is never opened again.
-/
import ScriptBridge.Bridge.Render
import ScriptBridge.Proofs.Widget.Lookup

namespace ScriptBridge

/-- The record of a widget that was just created. -/
def WidgetPlan.record (plan : WidgetPlan) (size : Size) : WidgetRecord :=
  ⟨plan.blueprint.kind, .created, .of plan.blueprint.origin size, plan.name⟩

/-- Where a new widget is placed. -/
def WidgetPlan.frame (plan : WidgetPlan) (handle : WidgetHandle) : Frame :=
  .of plan.blueprint.origin (.clamped handle.width handle.height)

theorem WidgetPlan.origin_ofLeaf (kind : WidgetKind) (a : Attributes) (origin : Point) :
    (WidgetPlan.ofLeaf kind a origin).blueprint.origin = origin := by
  cases kind <;> rfl

namespace BridgeState

variable {σ η κ : Type} {platform : Platform σ} {b : BridgeState σ η κ}

/-! ### Binding -/

/-- A binding pins its context, and the one before lets its own go; nothing else changes. -/
theorem registerBinding_eq (binding : CallbackBinding) :
    b.registerBinding binding =
      { b with
        callbacks := b.callbacks.register binding
        handles :=
          match b.callbacks.find? binding.widget with
          | some previous =>
            (b.handles.retainAll binding.context.handles).unpinAll previous.context.handles
          | none => b.handles.retainAll binding.context.handles } := by
  unfold registerBinding
  cases b.callbacks.find? binding.widget <;> rfl

@[simp] theorem registerBinding_callbacks (binding : CallbackBinding) :
    (b.registerBinding binding).callbacks = b.callbacks.register binding := by
  rw [registerBinding_eq]

@[simp] theorem registerBinding_counters (binding : CallbackBinding) :
    (b.registerBinding binding).counters = b.counters := by
  rw [registerBinding_eq]

theorem registerBinding_handles (binding : CallbackBinding) :
    (b.registerBinding binding).handles =
      match b.callbacks.find? binding.widget with
      | some previous =>
        (b.handles.retainAll binding.context.handles).unpinAll previous.context.handles
      | none => b.handles.retainAll binding.context.handles := by
  rw [registerBinding_eq]

theorem bindLogic_callbacks (context : Value) (names : NameTable) (id : WidgetId)
    (logic : Option Program) :
    (b.bindLogic context names id logic).callbacks =
      match logic with
      | some program => b.callbacks.register ⟨id, context, program, names⟩
      | none => b.callbacks := by
  cases logic with
  | none => rfl
  | some program => exact registerBinding_callbacks _

/-- Binding logic changes the bindings and the handles alone. -/
theorem bindLogic_frame (context : Value) (names : NameTable) (id : WidgetId)
    (logic : Option Program) :
    b.bindLogic context names id logic =
      { b with
        callbacks := (b.bindLogic context names id logic).callbacks
        handles := (b.bindLogic context names id logic).handles } := by
  cases logic with
  | none => rfl
  | some program => simp only [bindLogic, registerBinding_eq]

@[simp] theorem bindLogic_widgets (context : Value) (names : NameTable) (id : WidgetId)
    (logic : Option Program) : (b.bindLogic context names id logic).widgets = b.widgets := by
  rw [bindLogic_frame]

@[simp] theorem bindLogic_platform (context : Value) (names : NameTable) (id : WidgetId)
    (logic : Option Program) : (b.bindLogic context names id logic).platform = b.platform := by
  rw [bindLogic_frame]

@[simp] theorem bindLogic_counters (context : Value) (names : NameTable) (id : WidgetId)
    (logic : Option Program) : (b.bindLogic context names id logic).counters = b.counters := by
  rw [bindLogic_frame]

theorem bindLogic_host (context : Value) (names : NameTable) (id : WidgetId)
    (logic : Option Program) : (b.bindLogic context names id logic).host = b.host := by
  rw [bindLogic_frame]

theorem bindLogic_classes (context : Value) (names : NameTable) (id : WidgetId)
    (logic : Option Program) : (b.bindLogic context names id logic).classes = b.classes := by
  rw [bindLogic_frame]

/-! ### Creating -/

/-- The platform's answer when the bridge asks it for the next widget. -/
def creationAnswer (platform : Platform σ) (plan : WidgetPlan) (b : BridgeState σ η κ) :
    Except PlatformError Size :=
  (platform.create b.counters.widget plan.blueprint b.platform).1

/-- The state once the platform was asked for the next widget. -/
def afterRequest (platform : Platform σ) (plan : WidgetPlan) (b : BridgeState σ η κ) :
    BridgeState σ η κ :=
  { b with
    platform := (platform.create b.counters.widget plan.blueprint b.platform).2
    counters := { b.counters with widget := b.counters.widget + 1 } }

/-- The state once the next widget was recorded with a size. -/
def afterRecord (platform : Platform σ) (plan : WidgetPlan) (size : Size) (b : BridgeState σ η κ) :
    BridgeState σ η κ :=
  { b.afterRequest platform plan with
    widgets := b.widgets.set b.counters.widget (plan.record size) }

/-- The state once the next widget was created with a size. -/
def afterCreation (platform : Platform σ) (context : Value) (names : NameTable) (plan : WidgetPlan)
    (size : Size) (b : BridgeState σ η κ) : BridgeState σ η κ :=
  (b.afterRecord platform plan size).bindLogic context names b.counters.widget plan.logic

theorem create_cases (platform : Platform σ) (context : Value) (names : NameTable)
    (plan : WidgetPlan) (b : BridgeState σ η κ) :
    (∃ e, b.creationAnswer platform plan = .error e ∧
      b.create platform context names plan = (.error e.toBridge, b.afterRequest platform plan)) ∨
    (∃ size e, b.creationAnswer platform plan = .ok size ∧
      b.widgets.stateOf b.counters.widget ≠ .unborn ∧
      b.create platform context names plan = (.error e, b.afterRequest platform plan)) ∨
    (∃ size, b.creationAnswer platform plan = .ok size ∧
      b.widgets.stateOf b.counters.widget = .unborn ∧
      b.create platform context names plan =
        (.ok ⟨b.counters.widget, size.width, size.height⟩,
          b.afterCreation platform context names plan size)) := by
  unfold creationAnswer create freshWidget
  rcases hanswer : platform.create b.counters.widget plan.blueprint b.platform with ⟨answer, p⟩
  cases answer with
  | error e => exact Or.inl ⟨e, rfl, by simp [afterRequest, hanswer]⟩
  | ok size =>
    by_cases hborn : b.widgets.stateOf b.counters.widget = .unborn
    · refine Or.inr (Or.inr ⟨size, rfl, hborn, ?_⟩)
      have hcreate := WidgetTable.create_of_unborn hborn plan.blueprint.kind
        (.of plan.blueprint.origin size) plan.name
      simp [hanswer, hcreate, afterCreation, afterRecord, afterRequest, WidgetPlan.record]
    · obtain ⟨e, hcreate⟩ := WidgetTable.create_of_born hborn plan.blueprint.kind
        (.of plan.blueprint.origin size) plan.name
      refine Or.inr (Or.inl ⟨size, .eval e.message, rfl, hborn, ?_⟩)
      simp [hanswer, hcreate, afterRequest]

/-! ### Placing -/

/-- The state once a live widget was placed. -/
def afterPlacement (platform : Platform σ) (id : WidgetId) (frame : Frame) (r : WidgetRecord)
    (b : BridgeState σ η κ) : BridgeState σ η κ :=
  { b with
    platform := (platform.place id frame b.platform).2
    widgets := b.widgets.set id { r with state := .placed, frame := frame } }

theorem place_cases (platform : Platform σ) (id : WidgetId) (frame : Frame)
    (b : BridgeState σ η κ) :
    (¬ b.widgets.Live id ∧ ∃ e, b.place platform id frame = (.error e, b)) ∨
    (∃ e, b.widgets.Live id ∧ (platform.place id frame b.platform).1 = .error e ∧
      b.place platform id frame =
        (.error e.toBridge, { b with platform := (platform.place id frame b.platform).2 })) ∨
    (∃ r, b.widgets.find? id = some r ∧ r.state.isLive = true ∧
      (platform.place id frame b.platform).1 = .ok () ∧
      b.place platform id frame = (.ok (), b.afterPlacement platform id frame r)) := by
  unfold place
  cases hr : b.widgets.find? id with
  | none =>
    refine Or.inl ⟨fun ⟨r, hr', _⟩ => ?_, .unknownWidget id, rfl⟩
    rw [hr] at hr'
    cases hr'
  | some r =>
    by_cases hlive : r.state.isLive = true
    · rcases hanswer : platform.place id frame b.platform with ⟨answer, p⟩
      cases answer with
      | error e =>
        exact Or.inr (Or.inl ⟨e, ⟨r, hr, hlive⟩, rfl, by simp [hlive]⟩)
      | ok u =>
        refine Or.inr (Or.inr ⟨r, rfl, hlive, rfl, ?_⟩)
        simp [hlive, WidgetTable.place_of_live hr hlive, afterPlacement, hanswer]
    · refine Or.inl ⟨fun ⟨r', hr', hlive'⟩ => ?_, _, by simp only [hlive]; rfl⟩
      rw [hr] at hr'
      cases hr'
      exact hlive hlive'

/-- Placing changes the platform and the widgets alone. -/
theorem place_frame (id : WidgetId) (frame : Frame) :
    (b.place platform id frame).2 =
      { b with
        platform := (b.place platform id frame).2.platform
        widgets := (b.place platform id frame).2.widgets } := by
  rcases b.place_cases platform id frame with ⟨_, e, heq⟩ | ⟨e, _, _, heq⟩ | ⟨r, _, _, _, heq⟩
  · rw [heq]
  · rw [heq]
  · rw [heq]
    rfl

theorem place_handles (id : WidgetId) (frame : Frame) :
    (b.place platform id frame).2.handles = b.handles := by
  rw [place_frame]

theorem place_callbacks (id : WidgetId) (frame : Frame) :
    (b.place platform id frame).2.callbacks = b.callbacks := by
  rw [place_frame]

theorem place_counters (id : WidgetId) (frame : Frame) :
    (b.place platform id frame).2.counters = b.counters := by
  rw [place_frame]

theorem place_classes (id : WidgetId) (frame : Frame) :
    (b.place platform id frame).2.classes = b.classes := by
  rw [place_frame]

/-! ### Targets of scripts -/

/-- A target that stands for no widget is refused, and any other is placed. -/
theorem put_cases (platform : Platform σ) (target : Value) (frame : Frame) (b : BridgeState σ η κ) :
    (∃ e, b.put platform target frame = (.error e, b)) ∨
    ∃ id, b.put platform target frame = b.place platform id frame := by
  unfold put
  cases b.target? target with
  | none => exact Or.inl ⟨_, rfl⟩
  | some id => exact Or.inr ⟨id, rfl⟩

/-- The platform is told a new text, or nothing happens. -/
theorem setText_cases (platform : Platform σ) (target text : Value) (b : BridgeState σ η κ) :
    b.setText platform target text = b ∨
    ∃ id, b.setText platform target text =
      { b with platform := (platform.setText id text.text b.platform).2 } := by
  unfold setText
  split
  · exact Or.inl rfl
  · next id _ =>
    split
    · exact Or.inl rfl
    · split
      · exact Or.inr ⟨id, rfl⟩
      · exact Or.inl rfl

/-- A new text is none of the bridge's own business. -/
theorem setText_eq (platform : Platform σ) (target text : Value) (b : BridgeState σ η κ) :
    ∃ p, b.setText platform target text = { b with platform := p } := by
  rcases b.setText_cases platform target text with heq | ⟨id, heq⟩
  · exact ⟨b.platform, heq⟩
  · exact ⟨_, heq⟩

/-! ### Building -/

theorem build_of_create_error {context : Value} {plan : WidgetPlan} {r : Rendering}
    {e : BridgeError} {b' : BridgeState σ η κ}
    (h : b.create platform context r.names plan = (.error e, b')) :
    b.build platform context plan r = (.error e, r, b') := by
  simp [build, h]

theorem build_of_create_ok {context : Value} {plan : WidgetPlan} {r : Rendering}
    {handle : WidgetHandle} {b' : BridgeState σ η κ}
    (h : b.create platform context r.names plan = (.ok handle, b')) :
    (b.build platform context plan r).2 =
      (r.add plan handle, ((b'.shareNames (r.add plan handle)).place platform handle.id
        (plan.frame handle)).2) := by
  simp only [build, h, WidgetPlan.frame]
  split <;> simp_all

/-- The handle of the next widget, if the platform gives it a size. -/
def nextHandle (b : BridgeState σ η κ) (size : Size) : WidgetHandle :=
  ⟨b.counters.widget, size.width, size.height⟩

/-- The state once the next widget was created and the names of its rendering were shared. -/
def afterNaming (platform : Platform σ) (context : Value) (plan : WidgetPlan) (r : Rendering)
    (size : Size) (b : BridgeState σ η κ) : BridgeState σ η κ :=
  (b.afterCreation platform context r.names plan size).shareNames (r.add plan (b.nextHandle size))

@[simp] theorem afterNaming_widgets (context : Value) (plan : WidgetPlan) (r : Rendering)
    (size : Size) : (b.afterNaming platform context plan r size).widgets =
      b.widgets.set b.counters.widget (plan.record size) := bindLogic_widgets ..

@[simp] theorem afterNaming_platform (context : Value) (plan : WidgetPlan) (r : Rendering)
    (size : Size) : (b.afterNaming platform context plan r size).platform =
      (b.afterRequest platform plan).platform := bindLogic_platform ..

@[simp] theorem afterNaming_counters (context : Value) (plan : WidgetPlan) (r : Rendering)
    (size : Size) : (b.afterNaming platform context plan r size).counters =
      (b.afterRequest platform plan).counters := bindLogic_counters ..

/-- After an accepted creation under an id without a record, the answer to the placement decides. -/
theorem build_of_accepted {plan : WidgetPlan} {size : Size}
    (haccepted : b.creationAnswer platform plan = .ok size)
    (hfresh : b.widgets.stateOf b.counters.widget = .unborn) (context : Value) (r : Rendering) :
    (∃ e, (platform.place b.counters.widget (plan.frame (b.nextHandle size))
        (b.afterRequest platform plan).platform).1 = .error e ∧
      b.build platform context plan r =
        (.error e.toBridge, r.add plan (b.nextHandle size),
          { b.afterNaming platform context plan r size with
            platform := (platform.place b.counters.widget (plan.frame (b.nextHandle size))
              (b.afterRequest platform plan).platform).2 })) ∨
    ((platform.place b.counters.widget (plan.frame (b.nextHandle size))
        (b.afterRequest platform plan).platform).1 = .ok () ∧
      b.build platform context plan r =
        (.ok (b.nextHandle size), r.add plan (b.nextHandle size),
          (b.afterNaming platform context plan r size).afterPlacement platform b.counters.widget
            (plan.frame (b.nextHandle size)) (plan.record size))) := by
  have hcreate : b.create platform context r.names plan =
      (.ok (b.nextHandle size), b.afterCreation platform context r.names plan size) := by
    rcases create_cases platform context r.names plan b with
      ⟨e, hrefused, -⟩ | ⟨size', e, -, hborn, -⟩ | ⟨size', haccepted', -, hcreate⟩
    · rw [haccepted] at hrefused
      cases hrefused
    · exact absurd hfresh hborn
    · obtain rfl : size = size' := Except.ok.inj (haccepted.symm.trans haccepted')
      exact hcreate
  have hrecord : (b.afterNaming platform context plan r size).widgets.find? b.counters.widget =
      some (plan.record size) := by
    rw [afterNaming_widgets, WidgetTable.find?_set, if_pos rfl]
  have hbuild : ∀ (answer : Except BridgeError Unit) (b' : BridgeState σ η κ),
      (b.afterNaming platform context plan r size).place platform b.counters.widget
        (plan.frame (b.nextHandle size)) = (answer, b') →
      b.build platform context plan r =
        (answer.map fun _ => b.nextHandle size, r.add plan (b.nextHandle size), b') := by
    intro answer b' hplace
    simp only [afterNaming, nextHandle, WidgetPlan.frame] at hplace
    simp only [build, hcreate, nextHandle, hplace]
    cases answer <;> rfl
  rcases place_cases platform b.counters.widget (plan.frame (b.nextHandle size))
      (b.afterNaming platform context plan r size) with
    ⟨hdead, -⟩ | ⟨e, -, hanswer, hplace⟩ | ⟨w, hw, -, hanswer, hplace⟩
  · -- The record that was just made is live.
    exact absurd ⟨_, hrecord, rfl⟩ hdead
  · rw [afterNaming_platform] at hanswer hplace
    exact Or.inl ⟨e, hanswer, hbuild _ _ hplace⟩
  · rw [afterNaming_platform] at hanswer
    obtain rfl : plan.record size = w := Option.some.inj (hrecord.symm.trans hw)
    exact Or.inr ⟨hanswer, hbuild _ _ hplace⟩

/-- A creation does not get through, or only the placement is refused, or the widget is placed. -/
theorem build_cases (platform : Platform σ) (context : Value) (plan : WidgetPlan) (r : Rendering)
    (b : BridgeState σ η κ) :
    (∃ e, b.build platform context plan r = (.error e, r, b.afterRequest platform plan)) ∨
    (∃ size e, b.creationAnswer platform plan = .ok size ∧
      b.widgets.stateOf b.counters.widget = .unborn ∧
      (platform.place b.counters.widget (plan.frame (b.nextHandle size))
        (b.afterRequest platform plan).platform).1 = .error e ∧
      b.build platform context plan r =
        (.error e.toBridge, r.add plan (b.nextHandle size),
          { b.afterNaming platform context plan r size with
            platform := (platform.place b.counters.widget (plan.frame (b.nextHandle size))
              (b.afterRequest platform plan).platform).2 })) ∨
    (∃ size, b.creationAnswer platform plan = .ok size ∧
      b.widgets.stateOf b.counters.widget = .unborn ∧
      (platform.place b.counters.widget (plan.frame (b.nextHandle size))
        (b.afterRequest platform plan).platform).1 = .ok () ∧
      b.build platform context plan r =
        (.ok (b.nextHandle size), r.add plan (b.nextHandle size),
          (b.afterNaming platform context plan r size).afterPlacement platform b.counters.widget
            (plan.frame (b.nextHandle size)) (plan.record size))) := by
  rcases create_cases platform context r.names plan b with
    ⟨e, -, hcreate⟩ | ⟨size, e, -, -, hcreate⟩ | ⟨size, haccepted, hfresh, -⟩
  · exact Or.inl ⟨_, build_of_create_error hcreate⟩
  · exact Or.inl ⟨_, build_of_create_error hcreate⟩
  · rcases build_of_accepted haccepted hfresh context r with ⟨e, hanswer, hbuild⟩ | ⟨hanswer, hbuild⟩
    · exact Or.inr (Or.inl ⟨size, e, haccepted, hfresh, hanswer, hbuild⟩)
    · exact Or.inr (Or.inr ⟨size, haccepted, hfresh, hanswer, hbuild⟩)

/-- What holds after the creation, and is kept by sharing names and placing, holds of the whole. -/
theorem build_invariant {I : BridgeState σ η κ → Prop} {context : Value} {plan : WidgetPlan}
    {r : Rendering} (hcreate : I (b.create platform context r.names plan).2)
    (hshare : ∀ r b, I b → I (b.shareNames r))
    (hplace : ∀ id frame b, I b → I (b.place platform id frame).2) :
    I (b.build platform context plan r).2.2 := by
  rcases hc : b.create platform context r.names plan with ⟨result, b'⟩
  rw [hc] at hcreate
  cases result with
  | error e =>
    rw [build_of_create_error hc]
    exact hcreate
  | ok handle =>
    rw [build_of_create_ok hc]
    exact hplace _ _ _ (hshare _ _ hcreate)

/-! ### Destroying -/

/-- The state once a live widget was destroyed: its record is marked, its binding removed, and the
    context of the binding let go. -/
def afterDestruction (id : WidgetId) (r : WidgetRecord) (b : BridgeState σ η κ) : BridgeState σ η κ :=
  { b with
    widgets := b.widgets.set id { r with state := .destroyed }
    callbacks := b.callbacks.remove id
    handles :=
      match b.callbacks.find? id with
      | some binding => b.handles.unpinAll binding.context.handles
      | none => b.handles }

theorem destroyWidget_cases (id : WidgetId) (b : BridgeState σ η κ) :
    (∃ e, b.destroyWidget id = (.error e, b)) ∨
    ∃ r, b.widgets.find? id = some r ∧ r.state.isLive = true ∧
      b.destroyWidget id = (.ok (), b.afterDestruction id r) := by
  unfold destroyWidget
  cases hd : b.widgets.destroy id with
  | error e => exact Or.inl ⟨e, rfl⟩
  | ok t =>
    obtain ⟨r, hr, hlive, rfl⟩ := WidgetTable.destroy_eq_ok hd
    refine Or.inr ⟨r, hr, hlive, ?_⟩
    cases hbound : b.callbacks.find? id <;> simp [afterDestruction, unpin, hbound]

/-- A destruction that fails changes nothing. -/
theorem destroyWidget_eq_self {id : WidgetId} {e : BridgeError}
    (h : (b.destroyWidget id).1 = .error e) : (b.destroyWidget id).2 = b := by
  rcases b.destroyWidget_cases id with ⟨e', heq⟩ | ⟨r, _, _, heq⟩
  · rw [heq]
  · rw [heq] at h
    cases h

/-- The platform is not asked about a destruction. -/
@[simp] theorem destroyWidget_platform (id : WidgetId) :
    (b.destroyWidget id).2.platform = b.platform := by
  rcases b.destroyWidget_cases id with ⟨e, heq⟩ | ⟨r, _, _, heq⟩
  · rw [heq]
  · rw [heq]
    rfl

end BridgeState
end ScriptBridge
