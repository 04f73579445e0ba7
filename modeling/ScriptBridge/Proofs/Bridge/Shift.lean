/-
  ScriptBridge/Proofs/Bridge/Shift.lean
  =====================================
  **Operations on two bridges whose widget ids and handles are shifted.**

  `States` relates the states of two recording bridges.  They have the same
  objects under corresponding handles, and the same widgets, bindings and events
  under corresponding ids; the second may still hold events and calls from
  before.  The contexts of bindings need not be the same, since a script may keep
  ids and handles in them.

  Each operation leads from related states to related states.  Its outcomes are
  related as well, that is, the same up to the ids in widget handles and in the
  texts of errors.  Only a name needs more than related states: it stands for the greatest
  id, and so both runs must have counted upwards (`Counted`).
-/
import ScriptBridge.Bridge.Echo
import ScriptBridge.Proofs.Bridge.Build
import ScriptBridge.Proofs.Callback.Mentions
import ScriptBridge.Proofs.Handle.Shift
import ScriptBridge.Proofs.Platform.Shift
import ScriptBridge.Script.Marshal

namespace ScriptBridge

/-- The state of a recording bridge with the listening host. -/
abbrev RecordingState := BridgeState Recorder (List (List Value)) EchoClass

theorem BridgeState.target?_of_widgetId? {σ η κ : Type} {b : BridgeState σ η κ} {v : Value}
    {id : WidgetId} (h : v.widgetId? = some id) : b.target? v = some id := by
  cases v with
  | string name => cases h
  | _ => exact h

/-- Which contexts correspond: corresponding handles are pinned, and both can cross or neither. -/
structure Contexts (s : Shift) where
  contexts : Value → Value → Prop
  handles_eq : ∀ {u v}, contexts u v → v.handles = u.handles.map s.moveObject
  depth_le_iff : ∀ {u v}, contexts u v → (v.depth ≤ nestingLimit ↔ u.depth ≤ nestingLimit)

/-- Two runs that are compared: where they start, which contexts correspond, and what the second still
    holds from before. -/
structure Pairing extends Shift, Contexts toShift where
  held : List PlatformEvent
  heard : List (List Value)

namespace Shift

variable (s : Shift)

/-! ### Renderings and errors -/

def moveRendering (r : Rendering) : Rendering := ⟨s.moveNames r.names, r.bound.map s.move⟩

theorem moveRendering_add (r : Rendering) (plan : WidgetPlan) (h : WidgetHandle) :
    s.moveRendering (r.add plan h) = (s.moveRendering r).add plan (s.moveHandle h) := by
  unfold Rendering.add moveRendering
  rw [s.moveNames_add]
  cases plan.logic <;> rfl

def moveOutput : RenderOutput → RenderOutput
  | .names table => .names (s.moveNames table)
  | .leaf handle => .leaf (s.moveHandle handle)

/-- Two errors that differ at most in the widget that they tell of. -/
inductive Errors : BridgeError → BridgeError → Prop where
  | same (e : BridgeError) : Errors e e
  | unknown (id : WidgetId) : Errors (.unknownWidget id) (.unknownWidget (s.move id))
  | eval (before : String) (id : WidgetId) (after : String) :
      Errors (.eval (before ++ (Word.text id ++ after)))
        (.eval (before ++ (Word.text (s.move id) ++ after)))
  | hal (operation before : String) (id : WidgetId) :
      Errors (.invocation "hal" operation (before ++ Word.text id))
        (.invocation "hal" operation (before ++ Word.text (s.move id)))

variable {s}

theorem Refusals.toBridge {e e' : PlatformError} (h : s.Refusals e e') :
    s.Errors e.toBridge e'.toBridge := by
  cases h with
  | same e => exact .same _
  | about operation before id => exact .hal operation before id

/-- A widget with a record cannot be created again, in neither run. -/
theorem Tables.create {t t' : WidgetTable} (h : s.Tables t t') (id : WidgetId) (kind : WidgetKind)
    (frame : Frame) (name : Option String) :
    Outcomes (fun e e' => s.Errors (.eval e.message) (.eval e'.message)) s.Tables
      (t.create id kind frame name) (t'.create (s.move id) kind frame name) := by
  unfold WidgetTable.create WidgetState.advance
  rw [h.stateOf_move]
  by_cases hallowed : (t.stateOf id).allows .created
  · rw [if_pos hallowed, if_pos hallowed]
    exact .ok (h.set id (by simp))
  · rw [if_neg hallowed, if_neg hallowed]
    apply Outcomes.error
    simp only [LifecycleError.message, String.append_assoc]
    exact .eval "widget " id _

end Shift

namespace Pairing

variable (P : Pairing)

/-! ### States -/

/-- Two bindings of corresponding widgets. -/
structure Bindings (x y : CallbackBinding) : Prop where
  context : P.contexts x.context y.context
  logic : y.logic = x.logic
  names : y.names = P.moveNames x.names

/-- The second state is the first with ids and handles moved, and holds what was there before. -/
structure States (b b' : RecordingState) : Prop where
  platform : P.Recorders P.held b.platform b'.platform
  host : b'.host = P.heard ++ b.host
  handles : b'.handles = P.moveTable b.handles
  classes : b'.classes = b.classes
  widget : b'.counters.widget = P.move b.counters.widget
  handle : b'.counters.handle = b.counters.handle + P.ahead
  widgets : P.Tables b.widgets b'.widgets
  callbacks : ∀ id, Option.Rel P.Bindings (b.callbacks.find? id) (b'.callbacks.find? (P.move id))

/-- Neither run has wrapped around. -/
structure Counted (b b' : RecordingState) : Prop where
  first : b.widgets.From P.first
  second : b'.widgets.From P.second

/-- Two values that stand for corresponding widgets; one that stands for none by itself, such as a
    name, is the same in both runs. -/
def Targets (u v : Value) : Prop :=
  (v = u ∧ u.widgetId? = none) ∨ ∃ id, u.widgetId? = some id ∧ v.widgetId? = some (P.move id)

/-- Two operations end alike. -/
structure Ends {ε α : Type} (E : ε → ε → Prop) (R : α → α → Prop)
    (x y : Except ε α × RecordingState) : Prop where
  outcome : Outcomes E R x.1 y.1
  states : P.States x.2 y.2

/-- Two builds in a rendering end alike. -/
structure Builds (x y : Except BridgeError WidgetHandle × Rendering × RecordingState) : Prop where
  outcome : Outcomes P.Errors (fun h h' => h' = P.moveHandle h) x.1 y.1
  rendering : y.2.1 = P.moveRendering x.2.1
  states : P.States x.2.2 y.2.2

/-- Two walks over a description end alike. -/
structure Walks (x y : StackCursor × Rendering × RecordingState) : Prop where
  cursor : y.1 = x.1
  rendering : y.2.1 = P.moveRendering x.2.1
  states : P.States x.2.2 y.2.2

namespace States

variable {P} {b b' : RecordingState} (h : P.States b b')

include h

theorem openScope : P.States b.openScope.2 b'.openScope.2 :=
  { h with handles := by simp only [BridgeState.openScope, h.handles, P.openScope_moveTable] }

theorem openScope_fst : b'.openScope.1 = b.openScope.1 := by
  simp only [BridgeState.openScope, h.handles, P.openScope_moveTable]

theorem closeScope (token : ScopeToken) : P.States (b.closeScope token) (b'.closeScope token) :=
  { h with handles := by simp only [BridgeState.closeScope, h.handles, P.closeScope_moveTable] }

theorem adopt (family : ClassFamily (ClassKey EchoClass)) (o : ObjectRef EchoClass) :
    P.States (b.adopt family o).2 (b'.adopt family o).2 :=
  { h with
    handles := by
      rw [BridgeState.adopt, BridgeState.adopt, h.handles, h.handle]
      exact P.adopt_moveTable b.handles ⟨b.counters.handle⟩ o
    classes := by simp only [BridgeState.adopt, h.classes]
    handle := by
      rw [BridgeState.adopt, BridgeState.adopt, h.handle]
      exact Nat.add_right_comm .. }

theorem retain (handle : ObjectHandle) :
    P.States (b.retain handle).2 (b'.retain (P.moveObject handle)).2 :=
  { h with handles := by simp only [BridgeState.retain, h.handles, P.retain_moveTable] }

theorem retain_fst (handle : ObjectHandle) :
    (b'.retain (P.moveObject handle)).1 = (b.retain handle).1 := by
  simp only [BridgeState.retain, h.handles, P.retain_moveTable]

theorem recordIn {p p' : Recorder} (hp : P.Recorders P.held p p') :
    P.States { b with platform := p } { b' with platform := p' } := { h with platform := hp }

theorem writeIn {t t' : WidgetTable} (ht : P.Tables t t') :
    P.States { b with widgets := t } { b' with widgets := t' } := { h with widgets := ht }

/-- A binding with a related context pins the corresponding handles. -/
theorem registerBinding {x y : CallbackBinding} (hxy : P.Bindings x y)
    (hwidget : y.widget = P.move x.widget) :
    P.States (b.registerBinding x) (b'.registerBinding y) := by
  have hprevious := h.callbacks x.widget
  rw [BridgeState.registerBinding_eq, BridgeState.registerBinding_eq]
  refine { h with handles := ?_, callbacks := fun id => ?_ }
  · simp only [hwidget, h.handles, P.handles_eq hxy.context, P.retainAll_moveTable]
    revert hprevious
    generalize b.callbacks.find? x.widget = previous
    generalize b'.callbacks.find? (P.move x.widget) = previous'
    rintro (hprevious | _)
    · dsimp only
      rw [P.handles_eq hprevious.context, P.unpinAll_moveTable]
    · rfl
  · simp only [CallbackRegistry.find?_register, hwidget, Shift.move_inj]
    split
    · exact .some hxy
    · exact h.callbacks id

theorem bindLogic {u v : Value} (huv : P.contexts u v) (names : NameTable) (id : WidgetId)
    (logic : Option Program) :
    P.States (b.bindLogic u names id logic) (b'.bindLogic v (P.moveNames names) (P.move id) logic) := by
  cases logic with
  | none => exact h
  | some program => exact h.registerBinding ⟨huv, rfl, rfl⟩ rfl

theorem shareNames (r : Rendering) :
    P.States (b.shareNames r) (b'.shareNames (P.moveRendering r)) := by
  refine { h with callbacks := fun id => ?_ }
  have hbound := h.callbacks id
  simp only [BridgeState.shareNames, CallbackRegistry.find?_shareNames, Shift.moveRendering]
  revert hbound
  generalize b.callbacks.find? id = found
  generalize b'.callbacks.find? (P.move id) = found'
  rintro (hbound | _)
  · have hmem : P.move id ∈ r.bound.map P.move ↔ id ∈ r.bound := by simp
    by_cases hid : id ∈ r.bound
    · rw [CallbackRegistry.renamed_of_mem hid, CallbackRegistry.renamed_of_mem (hmem.mpr hid)]
      exact .some ⟨hbound.context, hbound.logic, rfl⟩
    · rw [CallbackRegistry.renamed_of_not_mem hid, CallbackRegistry.renamed_of_not_mem (mt hmem.mp hid)]
      exact .some hbound
  · exact .none

/-! ### Single widgets -/

variable (files : FileTree)

theorem create {u v : Value} (huv : P.contexts u v) (names : NameTable) (plan : WidgetPlan) :
    P.Ends P.Errors (fun x y => y = P.moveHandle x)
      (b.create (Recorder.platform files) u names plan)
      (b'.create (Recorder.platform files) v (P.moveNames names) plan) := by
  obtain ⟨hanswer, hrecorders⟩ := h.platform.create files b.counters.widget plan.blueprint
  rw [← h.widget] at hanswer hrecorders
  -- The next id is used up whatever the platform answers.
  have hasked : P.States
      { b with
        platform := ((Recorder.platform files).create b.counters.widget plan.blueprint b.platform).2
        counters := { b.counters with widget := b.counters.widget + 1 } }
      { b' with
        platform := ((Recorder.platform files).create b'.counters.widget plan.blueprint b'.platform).2
        counters := { b'.counters with widget := b'.counters.widget + 1 } } :=
    { h with
      platform := hrecorders
      widget := by simp only [h.widget, Shift.move_succ] }
  unfold BridgeState.create BridgeState.freshWidget
  dsimp only
  rw [hanswer]
  cases ((Recorder.platform files).create b.counters.widget plan.blueprint b.platform).1 with
  | error e => exact ⟨.error (.same _), hasked⟩
  | ok size =>
    have hrecorded := h.widgets.create b.counters.widget plan.blueprint.kind
      (.of plan.blueprint.origin size) plan.name
    rw [← h.widget] at hrecorded
    dsimp only
    revert hrecorded
    generalize b.widgets.create b.counters.widget plan.blueprint.kind
      (.of plan.blueprint.origin size) plan.name = recorded
    generalize b'.widgets.create b'.counters.widget plan.blueprint.kind
      (.of plan.blueprint.origin size) plan.name = recorded'
    rintro (htables | he)
    · refine ⟨.ok ?_, ?_⟩
      · simp only [Shift.moveHandle, h.widget]
      · dsimp only
        rw [h.widget]
        rw [h.widget] at hasked
        exact (hasked.writeIn htables).bindLogic huv names _ plan.logic
    · exact ⟨.error he, hasked⟩

theorem place (id : WidgetId) (frame : Frame) :
    P.Ends P.Errors Eq (b.place (Recorder.platform files) id frame)
      (b'.place (Recorder.platform files) (P.move id) frame) := by
  unfold BridgeState.place
  rw [h.widgets.find?_move]
  cases hr : b.widgets.find? id with
  | none => exact ⟨.error (.unknown id), h⟩
  | some r =>
    by_cases hlive : r.state.isLive = true
    · obtain ⟨hanswer, hrecorders⟩ := h.platform.place files id frame
      have hr' : b'.widgets.find? (P.move id) = some r := by rw [h.widgets.find?_move, hr]
      simp only [hlive, if_true, WidgetTable.place_of_live hr hlive, WidgetTable.place_of_live hr' hlive]
      revert hanswer
      generalize ((Recorder.platform files).place id frame b.platform).1 = answer
      generalize ((Recorder.platform files).place (P.move id) frame b'.platform).1 = answer'
      rintro (_ | he)
      · exact ⟨.ok rfl, { h with platform := hrecorders, widgets := h.widgets.set id (by simp) }⟩
      · exact ⟨.error he.toBridge, h.recordIn hrecorders⟩
    · simp only [hlive]
      refine ⟨.error ?_, h⟩
      simp only [String.append_assoc]
      exact .eval "widget " id _

theorem build {u v : Value} (huv : P.contexts u v) (plan : WidgetPlan) (r : Rendering) :
    P.Builds (b.build (Recorder.platform files) u plan r)
      (b'.build (Recorder.platform files) v plan (P.moveRendering r)) := by
  obtain ⟨houtcome, hcreated⟩ := h.create files huv r.names plan
  have hnames : (P.moveRendering r).names = P.moveNames r.names := rfl
  unfold BridgeState.build
  rw [hnames]
  revert houtcome hcreated
  generalize b.create (Recorder.platform files) u r.names plan = created
  generalize b'.create (Recorder.platform files) v (P.moveNames r.names) plan = created'
  obtain ⟨outcome, b₁⟩ := created
  obtain ⟨outcome', b₁'⟩ := created'
  rintro (⟨rfl⟩ | he) hcreated
  · rename_i handle
    obtain ⟨hplaced, hstates⟩ := (hcreated.shareNames (r.add plan handle)).place files handle.id
      (plan.frame handle)
    rw [P.moveRendering_add] at hplaced hstates
    dsimp only [Shift.moveHandle, WidgetPlan.frame] at hplaced hstates ⊢
    revert hplaced hstates
    generalize (b₁.shareNames (r.add plan handle)).place (Recorder.platform files) handle.id _ = placed
    generalize BridgeState.place (Recorder.platform files) (P.move handle.id) _
      (b₁'.shareNames _) = placed'
    obtain ⟨answer, b₂⟩ := placed
    obtain ⟨answer', b₂'⟩ := placed'
    rintro (_ | he) hstates
    · exact ⟨.ok rfl, (P.moveRendering_add r plan handle).symm, hstates⟩
    · exact ⟨.error he, (P.moveRendering_add r plan handle).symm, hstates⟩
  · exact ⟨.error he, rfl, hcreated⟩

theorem buildAlone {u v : Value} (huv : P.contexts u v) (plan : WidgetPlan) :
    P.Ends P.Errors (fun x y => y = P.moveHandle x)
      (b.buildAlone (Recorder.platform files) u plan)
      (b'.buildAlone (Recorder.platform files) v plan) := by
  obtain ⟨houtcome, -, hstates⟩ := h.build files huv plan .empty
  exact ⟨houtcome, hstates⟩

/-! ### Trees -/

omit h in
theorem renderChildren {u v : Value} (huv : P.contexts u v) (layout : LayoutConfig)
    (cursor : StackCursor) (children : List Descriptor) (r : Rendering) (h : P.States b b') :
    P.Walks (b.renderChildren (Recorder.platform files) layout u cursor children r)
      (b'.renderChildren (Recorder.platform files) layout v cursor children (P.moveRendering r)) := by
  -- Along the walk of the first run, which the second follows.
  induction cursor, children, r, b
    using BridgeState.renderChildren.induct (Recorder.platform files) layout u fun cursor d r b =>
      ∀ b', P.States b b' → P.Walks (b.renderChild (Recorder.platform files) layout u cursor d r)
        (b'.renderChild (Recorder.platform files) layout v cursor d (P.moveRendering r))
    generalizing b' with
  | case1 cursor r b kind a handle r' b₁ hbuild b' h =>
    obtain ⟨houtcome, hr, hstates⟩ := h.build files huv
      (.ofLeaf kind a (BridgeState.childOrigin layout cursor kind)) r
    rw [hbuild] at houtcome hr hstates
    rw [BridgeState.renderChild, BridgeState.renderChild, hbuild]
    revert houtcome hr hstates
    generalize b'.build _ v _ _ = built
    obtain ⟨outcome, r'', b₁'⟩ := built
    rintro ⟨rfl⟩ hr hstates
    exact ⟨rfl, hr, hstates⟩
  | case2 cursor r b kind a e r' b₁ hbuild b' h =>
    obtain ⟨houtcome, hr, hstates⟩ := h.build files huv
      (.ofLeaf kind a (BridgeState.childOrigin layout cursor kind)) r
    rw [hbuild] at houtcome hr hstates
    rw [BridgeState.renderChild, BridgeState.renderChild, hbuild]
    revert houtcome hr hstates
    generalize b'.build _ v _ _ = built
    obtain ⟨outcome, r'', b₁'⟩ := built
    rintro ⟨he⟩ hr hstates
    exact ⟨rfl, hr, hstates⟩
  | case3 cursor r b axis name children inner r' b₁ hinner ih b' h =>
    have hchildren := ih h
    rw [hinner] at hchildren
    rw [BridgeState.renderChild, BridgeState.renderChild, hinner]
    revert hchildren
    generalize b'.renderChildren _ layout v _ children _ = walked
    obtain ⟨inner', r'', b₁'⟩ := walked
    rintro ⟨rfl, hr, hstates⟩
    exact ⟨rfl, hr, hstates⟩
  | case4 cursor r b =>
    rw [BridgeState.renderChildren, BridgeState.renderChildren]
    exact ⟨rfl, rfl, h⟩
  | case5 cursor r b d rest cursor' r' b₁ hchild ihchild ih =>
    have hfirst := ihchild b' h
    rw [hchild] at hfirst
    rw [BridgeState.renderChildren, BridgeState.renderChildren, hchild]
    revert hfirst
    generalize b'.renderChild _ layout v cursor d _ = walked
    obtain ⟨cursor'', r'', b₁'⟩ := walked
    rintro ⟨hcursor, hr, hstates⟩
    dsimp only at hcursor hr hstates ⊢
    subst hcursor hr
    exact ih hstates

theorem renderTree {u v : Value} (huv : P.contexts u v) (layout : LayoutConfig) (d : Descriptor) :
    P.Ends P.Errors (fun x y => y = P.moveOutput x)
      (b.renderTree (Recorder.platform files) layout u d)
      (b'.renderTree (Recorder.platform files) layout v d) := by
  cases d with
  | leaf kind a =>
    obtain ⟨houtcome, hstates⟩ := h.buildAlone files huv (.ofLeaf kind a layout.rootOrigin)
    refine ⟨?_, hstates⟩
    unfold BridgeState.renderTree
    dsimp only
    revert houtcome
    generalize (b.buildAlone _ u _).1 = outcome
    generalize (b'.buildAlone _ v _).1 = outcome'
    rintro (⟨rfl⟩ | he)
    · exact .ok rfl
    · exact .error he
  | container axis name children =>
    have hwalks := renderChildren files huv layout (.start axis layout.rootOrigin layout.spacing)
      children .empty h
    exact ⟨.ok (congrArg (fun r => RenderOutput.names r.names) hwalks.rendering), hwalks.states⟩

theorem render {u v : Value} (huv : P.contexts u v) (layout : LayoutConfig) (description : Value) :
    P.Ends P.Errors (fun x y => y = P.moveOutput x)
      (b.render (Recorder.platform files) layout u description)
      (b'.render (Recorder.platform files) layout v description) := by
  unfold BridgeState.render
  cases Descriptor.ofValue description with
  | error e => exact ⟨.error (.same _), h⟩
  | ok read => exact h.renderTree files huv layout read.1

/-! ### Targets -/

/-- Of a name, the widget of the greatest id is meant. -/
theorem findNamed?_eq (hcounted : P.Counted b b') (name : String) :
    b'.widgets.findNamed? name = (b.widgets.findNamed? name).map fun e => (P.move e.1, e.2) :=
  h.widgets.findNamed?_eq hcounted.first hcounted.second name

theorem target?_eq (hcounted : P.Counted b b') {u v : Value} (huv : P.Targets u v) :
    b'.target? v = (b.target? u).map P.move := by
  rcases huv with ⟨rfl, hnone⟩ | ⟨id, hu, hv⟩
  · cases v with
    | string name =>
      rw [BridgeState.target?, BridgeState.target?, h.findNamed?_eq hcounted, Option.map_map,
        Option.map_map]
      rfl
    | _ => exact hnone.trans (congrArg (Option.map P.move) hnone.symm)
  · rw [BridgeState.target?_of_widgetId? hu, BridgeState.target?_of_widgetId? hv, Option.map_some]

theorem setText (hcounted : P.Counted b b') {u v : Value} (huv : P.Targets u v) (text : Value) :
    P.States (b.setText (Recorder.platform files) u text)
      (b'.setText (Recorder.platform files) v text) := by
  unfold BridgeState.setText
  rw [h.target?_eq hcounted huv]
  cases b.target? u with
  | none => exact h
  | some id =>
    rw [Option.map_some]
    dsimp only
    rw [h.widgets.find?_move]
    cases b.widgets.find? id with
    | none => exact h
    | some r =>
      dsimp only
      split
      · exact h.recordIn (h.platform.setText files id text.text)
      · exact h

theorem put (hcounted : P.Counted b b') {u v : Value} (huv : P.Targets u v) (frame : Frame) :
    P.Ends P.Errors Eq (b.put (Recorder.platform files) u frame)
      (b'.put (Recorder.platform files) v frame) := by
  unfold BridgeState.put
  rw [h.target?_eq hcounted huv]
  cases htarget : b.target? u with
  | some id => exact h.place files id frame
  | none =>
    rcases huv with ⟨rfl, hnone⟩ | ⟨id, hu, hv⟩
    · exact ⟨.error (.same _), h⟩
    · rw [BridgeState.target?_of_widgetId? hu] at htarget
      cases htarget

end States
end Pairing
end ScriptBridge
