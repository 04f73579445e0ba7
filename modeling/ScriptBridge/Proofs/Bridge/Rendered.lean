/-
  ScriptBridge/Proofs/Bridge/Rendered.lean
  ========================================
  **What a render makes, and what it binds.**

  A render walks a description and makes a widget of each leaf that the platform
  accepts.  The widgets made, in the order of the walk, determine everything that
  the render leaves behind: its names, in which a name stands for the last widget
  made under it, and the bindings of the widgets with logic, all with the context
  of the render and with all of its names, those of later widgets included.  No
  other binding changes.

  The walk shares its names with the bindings again after each widget, and
  `Rendered` is what holds between two of its steps.
-/
import Mathlib.Data.List.Induction
import ScriptBridge.Proofs.Bridge.Build
import ScriptBridge.Proofs.Callback.Mentions
import ScriptBridge.Proofs.Data.Sorted

namespace ScriptBridge

/-- A widget that was made: what was asked for, and the handle that it got. -/
structure Made where
  plan : WidgetPlan
  handle : WidgetHandle

/-- The last widget made under a name. -/
def lastMade? (made : List Made) (name : String) : Option WidgetHandle :=
  (made.reverse.find? fun m => m.plan.name == some name).map Made.handle

/-! ### The rendering of the widgets made -/

namespace Rendering

/-- What a render that made some widgets amounts to. -/
def ofMade (made : List Made) : Rendering :=
  made.foldl (fun r m => r.add m.plan m.handle) .empty

variable {made : List Made}

theorem ofMade_concat (made : List Made) (m : Made) :
    ofMade (made ++ [m]) = (ofMade made).add m.plan m.handle := List.foldl_append

theorem lastMade?_concat (made : List Made) (m : Made) (name : String) :
    lastMade? (made ++ [m]) name =
      if m.plan.name = some name then some m.handle else lastMade? made name := by
  by_cases h : m.plan.name = some name <;> simp [lastMade?, h]

/-- A name stands for the last widget made under it. -/
theorem find?_names_ofMade (made : List Made) (name : String) :
    (ofMade made).names.find? name = lastMade? made name := by
  induction made using List.reverseRecOn with
  | nil => rfl
  | append_singleton made m ih =>
    rw [ofMade_concat, lastMade?_concat, ← ih]
    simp only [add, NameTable.add]
    cases hname : m.plan.name with
    | none => simp
    | some name' =>
      by_cases h : name' = name
      · subst h
        simp [NameTable.find?_insert_self]
      · simp [h, NameTable.find?_insert_of_ne h]

theorem sorted_names_ofMade (made : List Made) : Assoc.Sorted (ofMade made).names.entries := by
  induction made using List.reverseRecOn with
  | nil => exact Assoc.sorted_nil
  | append_singleton made m ih =>
    rw [ofMade_concat]
    simp only [add, NameTable.add]
    cases m.plan.name with
    | none => exact ih
    | some name => exact ih.insert name m.handle

/-- The widgets with logic are bound. -/
theorem mem_bound_ofMade {id : WidgetId} :
    id ∈ (ofMade made).bound ↔ ∃ m ∈ made, m.handle.id = id ∧ m.plan.logic.isSome := by
  induction made using List.reverseRecOn with
  | nil => simp [ofMade, empty]
  | append_singleton made m ih =>
    have hbound : id ∈ (ofMade (made ++ [m])).bound ↔
        (m.handle.id = id ∧ m.plan.logic.isSome) ∨ id ∈ (ofMade made).bound := by
      rw [ofMade_concat]
      cases hlogic : m.plan.logic with
      | none => simp [add, hlogic]
      | some program => simp [add, hlogic, eq_comm]
    rw [hbound, ih]
    constructor
    · rintro (h | ⟨m', hm', h⟩)
      · exact ⟨m, List.mem_append_right _ (List.mem_singleton_self m), h⟩
      · exact ⟨m', List.mem_append_left _ hm', h⟩
    · rintro ⟨m', hm', h⟩
      rcases List.mem_append.mp hm' with hm' | hm'
      · exact Or.inr ⟨m', hm', h⟩
      · rw [List.mem_singleton.mp hm'] at h
        exact Or.inl h

end Rendering

namespace BridgeState

variable {σ η κ : Type}

/-! ### The widgets that a render makes -/

/-- The widget that a build makes, if it is created; it need not get its place. -/
def made? (platform : Platform σ) (context : Value) (plan : WidgetPlan) (r : Rendering)
    (b : BridgeState σ η κ) : Option Made :=
  match b.create platform context r.names plan with
  | (.ok handle, _) => some ⟨plan, handle⟩
  | (.error _, _) => none

mutual

/-- The widgets that a child of a container makes. -/
def childMade (platform : Platform σ) (layout : LayoutConfig) (context : Value)
    (cursor : StackCursor) (d : Descriptor) (r : Rendering) (b : BridgeState σ η κ) : List Made :=
  match d with
  | .leaf kind a =>
    (b.made? platform context (.ofLeaf kind a (childOrigin layout cursor kind)) r).toList
  | .container axis _ children =>
    childrenMade platform layout context (.start axis cursor.next layout.spacing) children r b

/-- The widgets that the children of a container make. -/
def childrenMade (platform : Platform σ) (layout : LayoutConfig) (context : Value)
    (cursor : StackCursor) (children : List Descriptor) (r : Rendering) (b : BridgeState σ η κ) :
    List Made :=
  match children with
  | [] => []
  | d :: rest =>
    let (cursor', r', b') := renderChild platform layout context cursor d r b
    childMade platform layout context cursor d r b ++
      childrenMade platform layout context cursor' rest r' b'

end

/-- The widgets that the render of a description makes, in order. -/
def madeBy (platform : Platform σ) (layout : LayoutConfig) (context description : Value)
    (b : BridgeState σ η κ) : List Made :=
  match Descriptor.ofValue description with
  | .error _ => []
  | .ok (.leaf kind a, _) =>
    (b.made? platform context (.ofLeaf kind a layout.rootOrigin) .empty).toList
  | .ok (.container axis _ children, _) =>
    b.childrenMade platform layout context (.start axis layout.rootOrigin layout.spacing) children
      .empty

/-! ### One widget -/

/-- The id has a record, of a widget in whatever stage. -/
def Born (b : BridgeState σ η κ) (id : WidgetId) : Prop := b.widgets.stateOf id ≠ .unborn

/-- The later state has a record for every widget that has one in the earlier state. -/
def KeepsBorn (b b' : BridgeState σ η κ) : Prop := ∀ id, b.Born id → b'.Born id

theorem keepsBorn_of_widgets {b b' : BridgeState σ η κ} (h : b'.widgets = b.widgets) :
    b.KeepsBorn b' := by
  intro id hid
  rwa [Born, h]

/-- Writing a record that is not unborn. -/
theorem keepsBorn_of_set {b b' : BridgeState σ η κ} {id : WidgetId} {w : WidgetRecord}
    (h : b'.widgets = b.widgets.set id w) (hw : w.state ≠ .unborn) : b.KeepsBorn b' := by
  intro id' hid'
  rw [Born, h, WidgetTable.stateOf, WidgetTable.find?_set]
  by_cases heq : id = id'
  · rw [if_pos heq]
    exact hw
  · rw [if_neg heq]
    exact hid'

variable {platform : Platform σ} {b : BridgeState σ η κ}

theorem keepsBorn_place (id : WidgetId) (frame : Frame) :
    b.KeepsBorn (b.place platform id frame).2 := by
  rcases b.place_cases platform id frame with ⟨_, e, heq⟩ | ⟨e, _, _, heq⟩ | ⟨w, _, _, _, heq⟩
  · rw [heq]
    exact keepsBorn_of_widgets rfl
  · rw [heq]
    exact keepsBorn_of_widgets rfl
  · rw [heq]
    exact keepsBorn_of_set rfl (by simp)

/-- The bindings once the next widget was created and the names of its rendering were shared. -/
theorem callbacks_afterNaming (context : Value) (plan : WidgetPlan) (r : Rendering) (size : Size) :
    (b.afterNaming platform context plan r size).callbacks =
      (match plan.logic with
        | some program => b.callbacks.register ⟨b.counters.widget, context, program, r.names⟩
        | none => b.callbacks).shareNames (r.add plan (b.nextHandle size)).bound
          (r.add plan (b.nextHandle size)).names := by
  have hrecord : (b.afterRecord platform plan size).callbacks = b.callbacks := rfl
  cases hlogic : plan.logic with
  | none => simp only [afterNaming, shareNames, afterCreation, bindLogic_callbacks, hrecord, hlogic]
  | some program =>
    simp only [afterNaming, shareNames, afterCreation, bindLogic_callbacks, hrecord, hlogic]

/-- The new widget is bound to its logic, with its own name among the others. -/
theorem find?_afterNaming_next {context : Value} {plan : WidgetPlan} {r : Rendering} {size : Size}
    {program : Program} (hlogic : plan.logic = some program) :
    (b.afterNaming platform context plan r size).callbacks.find? b.counters.widget =
      some ⟨b.counters.widget, context, program, (r.add plan (b.nextHandle size)).names⟩ := by
  rw [callbacks_afterNaming, CallbackRegistry.find?_shareNames]
  simp only [hlogic, CallbackRegistry.find?_register, if_pos, Option.map_some]
  simp [CallbackRegistry.renamed, Rendering.add, hlogic, nextHandle]

/-- The bindings of the rendering get to know the new name. -/
theorem find?_afterNaming_of_mem {context : Value} {plan : WidgetPlan} {r : Rendering} {size : Size}
    {id : WidgetId} (hid : id ∈ r.bound) (hne : id ≠ b.counters.widget) :
    (b.afterNaming platform context plan r size).callbacks.find? id =
      (b.callbacks.find? id).map fun binding =>
        { binding with names := (r.add plan (b.nextHandle size)).names } := by
  have hmem : id ∈ (r.add plan (b.nextHandle size)).bound := by
    cases hlogic : plan.logic <;> simp [Rendering.add, hlogic, hid]
  rw [callbacks_afterNaming, CallbackRegistry.find?_shareNames, CallbackRegistry.renamed_of_mem hmem]
  cases plan.logic with
  | none => rfl
  | some program => rw [CallbackRegistry.find?_register, if_neg (Ne.symm hne)]

/-- All other bindings stay. -/
theorem find?_afterNaming_of_not_mem {context : Value} {plan : WidgetPlan} {r : Rendering}
    {size : Size} {id : WidgetId} (hid : id ∉ (r.add plan (b.nextHandle size)).bound) :
    (b.afterNaming platform context plan r size).callbacks.find? id = b.callbacks.find? id := by
  rw [callbacks_afterNaming, CallbackRegistry.find?_shareNames,
    CallbackRegistry.renamed_of_not_mem hid, Option.map_id']
  cases hlogic : plan.logic with
  | none => rfl
  | some program =>
    have hne : b.counters.widget ≠ id := by
      rintro rfl
      exact hid (by simp [Rendering.add, hlogic, nextHandle])
    rw [CallbackRegistry.find?_register, if_neg hne]

/-- A build makes a widget under the next id, if it had no record, or leaves only a used-up id. -/
theorem build_made_cases (platform : Platform σ) (context : Value) (plan : WidgetPlan) (r : Rendering)
    (b : BridgeState σ η κ) :
    (b.made? platform context plan r = none ∧
      (b.build platform context plan r).2 = (r, b.afterRequest platform plan)) ∨
    ∃ size, ¬ b.Born b.counters.widget ∧
      b.made? platform context plan r = some ⟨plan, b.nextHandle size⟩ ∧
      (b.build platform context plan r).2 =
        (r.add plan (b.nextHandle size),
          ((b.afterNaming platform context plan r size).place platform b.counters.widget
            (plan.frame (b.nextHandle size))).2) := by
  unfold made?
  rcases create_cases platform context r.names plan b with
    ⟨e, -, hcreate⟩ | ⟨size, e, -, -, hcreate⟩ | ⟨size, -, hfresh, hcreate⟩
  · rw [hcreate, build_of_create_error hcreate]
    exact Or.inl ⟨rfl, rfl⟩
  · rw [hcreate, build_of_create_error hcreate]
    exact Or.inl ⟨rfl, rfl⟩
  · rw [hcreate, build_of_create_ok hcreate]
    exact Or.inr ⟨size, fun hborn => hborn hfresh, rfl, rfl⟩

/-! ### The walk -/

/-- What a render has done since its start, when it has made some widgets: they are new, those with
    logic are bound with all names given so far, and all other bindings are as they were. -/
structure Rendered (context : Value) (made : List Made) (b₀ b : BridgeState σ η κ) : Prop where
  kept : b₀.KeepsBorn b
  fresh : ∀ m ∈ made, ¬ b₀.Born m.handle.id
  born : ∀ m ∈ made, b.Born m.handle.id
  bound : ∀ m ∈ made, ∀ program, m.plan.logic = some program →
    b.callbacks.find? m.handle.id =
      some ⟨m.handle.id, context, program, (Rendering.ofMade made).names⟩
  others : ∀ id, id ∉ (Rendering.ofMade made).bound → b.callbacks.find? id = b₀.callbacks.find? id

namespace Rendered

variable {context : Value} {made : List Made} {b₀ : BridgeState σ η κ}

theorem start (context : Value) (b : BridgeState σ η κ) : Rendered context [] b b where
  kept _ h := h
  fresh _ hm := absurd hm List.not_mem_nil
  born _ hm := absurd hm List.not_mem_nil
  bound _ hm := absurd hm List.not_mem_nil
  others _ _ := rfl

/-- A change that loses no record and touches no binding. -/
theorem of_kept (h : Rendered context made b₀ b) {b' : BridgeState σ η κ} (hkept : b.KeepsBorn b')
    (hcallbacks : b'.callbacks = b.callbacks) : Rendered context made b₀ b' where
  kept id hid := hkept id (h.kept id hid)
  fresh := h.fresh
  born m hm := hkept _ (h.born m hm)
  bound := by
    rw [hcallbacks]
    exact h.bound
  others := by
    rw [hcallbacks]
    exact h.others

/-- One more widget, under an id without a record. -/
theorem naming (h : Rendered context made b₀ b) (hfresh : ¬ b.Born b.counters.widget)
    (plan : WidgetPlan) (size : Size) :
    Rendered context (made ++ [⟨plan, b.nextHandle size⟩]) b₀
      (b.afterNaming platform context plan (.ofMade made) size) := by
  have hwidgets : (b.afterNaming platform context plan (.ofMade made) size).widgets =
      b.widgets.set b.counters.widget (plan.record size) := afterNaming_widgets ..
  have hkept : b.KeepsBorn (b.afterNaming platform context plan (.ofMade made) size) :=
    keepsBorn_of_set hwidgets (by simp [WidgetPlan.record])
  -- The widgets made before have records, so they are not the new one.
  have hne : ∀ m ∈ made, m.handle.id ≠ b.counters.widget := by
    intro m hm heq
    exact hfresh (heq ▸ h.born m hm)
  refine ⟨fun id hid => hkept id (h.kept id hid), ?_, ?_, ?_, ?_⟩
  · intro m hm
    rcases List.mem_append.mp hm with hm | hm
    · exact h.fresh m hm
    · rw [List.mem_singleton.mp hm]
      exact fun hborn => hfresh (h.kept _ hborn)
  · intro m hm
    rcases List.mem_append.mp hm with hm | hm
    · exact hkept _ (h.born m hm)
    · rw [List.mem_singleton.mp hm, Born, hwidgets]
      simp [WidgetTable.stateOf, WidgetTable.find?_set, nextHandle, WidgetPlan.record]
  · intro m hm program hlogic
    rw [Rendering.ofMade_concat]
    rcases List.mem_append.mp hm with hm | hm
    · have hmem : m.handle.id ∈ (Rendering.ofMade made).bound :=
        Rendering.mem_bound_ofMade.mpr ⟨m, hm, rfl, by rw [hlogic]; rfl⟩
      rw [find?_afterNaming_of_mem hmem (hne m hm), h.bound m hm program hlogic, Option.map_some]
    · obtain rfl := List.mem_singleton.mp hm
      exact find?_afterNaming_next hlogic
  · intro id hid
    have hold : id ∉ (Rendering.ofMade made).bound := by
      intro hmem
      obtain ⟨m, hm, h⟩ := Rendering.mem_bound_ofMade.mp hmem
      exact hid (Rendering.mem_bound_ofMade.mpr ⟨m, List.mem_append_left _ hm, h⟩)
    rw [Rendering.ofMade_concat] at hid
    rw [find?_afterNaming_of_not_mem hid, h.others id hold]

/-- A widget that was not bound before was made with logic. -/
theorem made_of_bound (h : Rendered context made b₀ b) {id : WidgetId} {binding : CallbackBinding}
    (hunbound : b₀.callbacks.find? id = none) (hbound : b.callbacks.find? id = some binding) :
    ∃ m ∈ made, m.handle.id = id ∧ ∃ program, m.plan.logic = some program := by
  by_cases hmem : id ∈ (Rendering.ofMade made).bound
  · obtain ⟨m, hm, hid, hlogic⟩ := Rendering.mem_bound_ofMade.mp hmem
    exact ⟨m, hm, hid, Option.isSome_iff_exists.mp hlogic⟩
  · rw [h.others id hmem, hunbound] at hbound
    cases hbound

end Rendered

/-- A point of the walk: the rendering is that of the widgets made, and so is the state. -/
structure Walked (context : Value) (made : List Made) (b₀ : BridgeState σ η κ)
    (point : Rendering × BridgeState σ η κ) : Prop where
  rendering : point.1 = .ofMade made
  rendered : Rendered context made b₀ point.2

namespace Walked

variable {context : Value} {made : List Made} {b₀ : BridgeState σ η κ} {r : Rendering}

theorem start (context : Value) (b : BridgeState σ η κ) : Walked context [] b (.empty, b) :=
  ⟨rfl, .start context b⟩

/-- A step of the walk: a build, whatever comes of it. -/
theorem build (h : Walked context made b₀ (r, b)) (platform : Platform σ) (plan : WidgetPlan) :
    Walked context (made ++ (b.made? platform context plan r).toList) b₀
      (b.build platform context plan r).2 := by
  obtain ⟨hr, h⟩ := h
  simp only at hr h
  subst hr
  rcases build_made_cases platform context plan (.ofMade made) b with
    ⟨hmade, hbuild⟩ | ⟨size, hfresh, hmade, hbuild⟩
  · rw [hbuild, hmade, Option.toList_none, List.append_nil]
    exact ⟨rfl, h.of_kept (keepsBorn_of_widgets rfl) rfl⟩
  · rw [hbuild, hmade, Option.toList_some]
    refine ⟨(Rendering.ofMade_concat made ⟨plan, b.nextHandle size⟩).symm, ?_⟩
    exact (h.naming hfresh plan size).of_kept (keepsBorn_place _ _) (place_callbacks _ _)

/-- Along the walk: a child makes its widgets, and so do the children from there on. -/
theorem renderChildren (platform : Platform σ) (layout : LayoutConfig) (cursor : StackCursor)
    (children : List Descriptor) (r : Rendering) (b : BridgeState σ η κ)
    (h : Walked context made b₀ (r, b)) :
    Walked context (made ++ b.childrenMade platform layout context cursor children r) b₀
      (b.renderChildren platform layout context cursor children r).2 := by
  induction cursor, children, r, b
    using BridgeState.renderChildren.induct platform layout context fun cursor d r b =>
      ∀ made, Walked context made b₀ (r, b) →
        Walked context (made ++ b.childMade platform layout context cursor d r) b₀
          (b.renderChild platform layout context cursor d r).2
    generalizing made with
  | case1 cursor r b kind a handle r' b' hbuild made h =>
    have hstep := h.build platform (.ofLeaf kind a (childOrigin layout cursor kind))
    rw [hbuild] at hstep
    simp only [BridgeState.renderChild, childMade, hbuild]
    exact hstep
  | case2 cursor r b kind a e r' b' hbuild made h =>
    have hstep := h.build platform (.ofLeaf kind a (childOrigin layout cursor kind))
    rw [hbuild] at hstep
    simp only [BridgeState.renderChild, childMade, hbuild]
    exact hstep
  | case3 cursor r b axis name children inner r' b' hinner ih made h =>
    have hchildren := ih h
    rw [hinner] at hchildren
    simp only [BridgeState.renderChild, childMade, hinner]
    exact hchildren
  | case4 cursor r b =>
    simp only [BridgeState.renderChildren, childrenMade, List.append_nil]
    exact h
  | case5 cursor r b d rest cursor' r' b' hchild ihchild ih =>
    have hfirst := ihchild made h
    rw [hchild] at hfirst
    simp only [BridgeState.renderChildren, childrenMade, hchild, ← List.append_assoc]
    exact ih hfirst

end Walked

/-! ### Whole renders -/

theorem rendered_buildAlone (platform : Platform σ) (context : Value) (plan : WidgetPlan)
    (b : BridgeState σ η κ) :
    Rendered context (b.made? platform context plan .empty).toList b
      (b.buildAlone platform context plan).2 :=
  ((Walked.start context b).build platform plan).rendered

theorem rendered_render (platform : Platform σ) (layout : LayoutConfig) (context description : Value)
    (b : BridgeState σ η κ) :
    Rendered context (b.madeBy platform layout context description) b
      (b.render platform layout context description).2 := by
  unfold render madeBy
  cases Descriptor.ofValue description with
  | error e => exact .start context b
  | ok read =>
    obtain ⟨d, warnings⟩ := read
    cases d with
    | leaf kind a => exact rendered_buildAlone platform context _ b
    | container axis name children =>
      exact ((Walked.start context b).renderChildren platform layout _ children).rendered

/-- A render with a container at its root hands back the names of the widgets that it made. -/
theorem names_of_render {layout : LayoutConfig} {context description : Value} {table : NameTable}
    (h : (b.render platform layout context description).1 = .ok (.names table)) :
    table = (Rendering.ofMade (b.madeBy platform layout context description)).names := by
  unfold render at h
  unfold madeBy
  cases hread : Descriptor.ofValue description with
  | error e =>
    rw [hread] at h
    cases h
  | ok read =>
    obtain ⟨d, warnings⟩ := read
    rw [hread] at h
    cases d with
    | leaf kind a =>
      simp only [renderTree] at h
      cases hresult : (b.buildAlone platform context (.ofLeaf kind a layout.rootOrigin)).1 with
      | error e =>
        rw [hresult] at h
        cases h
      | ok handle =>
        rw [hresult] at h
        cases h
    | container axis name children =>
      have hwalked := (Walked.start context b).renderChildren platform layout
        (.start axis layout.rootOrigin layout.spacing) children
      cases h
      exact congrArg Rendering.names hwalked.rendering

end BridgeState
end ScriptBridge
