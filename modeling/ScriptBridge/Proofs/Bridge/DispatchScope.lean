/-
  ScriptBridge/Proofs/Bridge/DispatchScope.lean
  =============================================
  **What the logic of a widget sees when it fires.**

  The scope of a dispatch is put together in two places: the names of the render
  and the three fixed names `ctx`, `ui` and `event` where the widget fires, and
  the two objects, `sys` and the callback object, where any program is run.  In a
  script the last entry of a name is meant, so that the fixed names hide the
  names of widgets; and since the name of the callback object was checked when
  the bridge was started, no fixed name hides another.

  Between the render and the dispatch anything may happen.  A binding is only
  ever made for a widget without a record, and a record is never lost, so as long
  as the widget is bound its binding is the one that the render left behind.
-/
import ScriptBridge.Proofs.Bridge.Conduct
import ScriptBridge.Proofs.Bridge.Refusal
import ScriptBridge.Proofs.Bridge.Rendered
import ScriptBridge.Proofs.Handle.Lookup
import ScriptBridge.Proofs.Script.Marshal

namespace ScriptBridge

variable {σ η κ : Type}

/-! ### Bindings that stay as they are -/

/-- No record was lost, and a binding is an earlier one unless its widget had no record. -/
structure BridgeState.BindsOnce (b b' : BridgeState σ η κ) : Prop where
  kept : b.KeepsBorn b'
  bound : ∀ id binding, b'.callbacks.find? id = some binding →
    b.callbacks.find? id = some binding ∨ ¬ b.Born id

/-- A widget that is destroyed loses its binding, and no other widget gets one. -/
theorem BridgeState.find?_of_destroyWidget {b : BridgeState σ η κ} {id id' : WidgetId}
    {binding : CallbackBinding}
    (h : (b.destroyWidget id).2.callbacks.find? id' = some binding) :
    b.callbacks.find? id' = some binding := by
  rcases b.destroyWidget_cases id with ⟨e, heq⟩ | ⟨w, _, _, heq⟩
  · rwa [heq] at h
  · rw [heq, afterDestruction, CallbackRegistry.find?_remove] at h
    split at h
    · cases h
    · exact h

namespace BridgeState.BindsOnce

variable {b b' b'' : BridgeState σ η κ}

theorem of_kept (hkept : b.KeepsBorn b') (hcallbacks : b'.callbacks = b.callbacks) :
    b.BindsOnce b' := by
  refine ⟨hkept, fun id binding hid => ?_⟩
  rw [hcallbacks] at hid
  exact Or.inl hid

theorem of_eq (hwidgets : b'.widgets = b.widgets) (hcallbacks : b'.callbacks = b.callbacks) :
    b.BindsOnce b' := of_kept (keepsBorn_of_widgets hwidgets) hcallbacks

theorem trans (h : b.BindsOnce b') (h' : b'.BindsOnce b'') : b.BindsOnce b'' := by
  refine ⟨fun id hid => h'.kept id (h.kept id hid), fun id binding hid => ?_⟩
  rcases h'.bound id binding hid with hbound | hunborn
  · exact h.bound id binding hbound
  · exact Or.inr fun hborn => hunborn (h.kept id hborn)

theorem destroyWidget (id : WidgetId) (b : BridgeState σ η κ) :
    b.BindsOnce (b.destroyWidget id).2 := by
  refine ⟨?_, fun id' binding hid' => Or.inl (find?_of_destroyWidget hid')⟩
  rcases b.destroyWidget_cases id with ⟨e, heq⟩ | ⟨w, _, _, heq⟩
  · rw [heq]
    exact keepsBorn_of_widgets rfl
  · rw [heq, afterDestruction]
    exact keepsBorn_of_set rfl (by simp)

/-- The widgets that a render makes had no record. -/
theorem of_rendered {context : Value} {made : List Made} (h : Rendered context made b b') :
    b.BindsOnce b' := by
  refine ⟨h.kept, fun id binding hid => ?_⟩
  by_cases hmem : id ∈ (Rendering.ofMade made).bound
  · obtain ⟨m, hm, rfl, -⟩ := Rendering.mem_bound_ofMade.mp hmem
    exact Or.inr (h.fresh m hm)
  · rw [h.others id hmem] at hid
    exact Or.inl hid

end BridgeState.BindsOnce

namespace Setting

variable [DecidableEq κ] {s : Setting σ η κ} {b b' : BridgeState σ η κ}

theorem bindsOnce_after {a : Action η κ} (ha : a.isBuild = false) (b : BridgeState σ η κ) :
    b.BindsOnce (s.after a b) := by
  cases a with
  | build context plan r => cases ha
  | put target frame =>
    simp only [after, act]
    rcases b.put_cases s.platform target frame with ⟨e, heq⟩ | ⟨id, heq⟩
    · rw [heq]
      exact .of_eq rfl rfl
    · rw [heq]
      exact .of_kept (BridgeState.keepsBorn_place id frame) (BridgeState.place_callbacks id frame)
  | setText target text =>
    obtain ⟨p, heq⟩ := b.setText_eq s.platform target text
    simp only [after, act, heq]
    exact .of_eq rfl rfl
  | destroy id => exact .destroyWidget id b
  | _ => exact .of_eq rfl rfl

theorem admits_bindsOnce (s : Setting σ η κ) : s.Admits BridgeState.BindsOnce where
  refl _ := .of_eq rfl rfl
  trans := .trans
  act _ b _ _ hbuild := bindsOnce_after hbuild b
  render context description b :=
    .of_rendered (BridgeState.rendered_render s.platform s.layout context description b)
  buildAlone _ context b := .of_rendered (BridgeState.rendered_buildAlone s.platform context _ b)
  scope {b _} h := by
    have hopened : b.BindsOnce b.openScope.2 := .of_eq rfl rfl
    exact hopened.trans (h.trans (.of_eq rfl rfl))

/-- A state that comes after another, in the midst of whatever is done to the bridge: after any uses,
    with any scopes opened and closed. -/
inductive Later (s : Setting σ η κ) (b : BridgeState σ η κ) : BridgeState σ η κ → Prop where
  | refl : Later s b b
  | use {b' : BridgeState σ η κ} (n : Nat) (running : List (ObjectRef κ)) (u : Use η κ)
      (h : Later s b b') : Later s b (s.use n running u b')
  | action {b' : BridgeState σ η κ} (a : Action η κ) (ha : a.isBuild = false) (h : Later s b b') :
      Later s b (s.after a b')
  | closeScope {b' : BridgeState σ η κ} (token : ScopeToken) (h : Later s b b') :
      Later s b (b'.closeScope token)

theorem removesWithin_bindsOnce (n : Nat) (running : List (ObjectRef κ)) (task : Task η κ)
    (b : BridgeState σ η κ) : s.RemovesWithin BridgeState.BindsOnce n running task b :=
  removesWithin_of_after (fun _ _ => bindsOnce_after) n running task b

theorem bindsOnce_use (s : Setting σ η κ) (n : Nat) (running : List (ObjectRef κ)) (u : Use η κ)
    (b : BridgeState σ η κ) : b.BindsOnce (s.use n running u b) :=
  s.admits_bindsOnce.use removesWithin_bindsOnce n running u b

theorem Later.bindsOnce (h : s.Later b b') : b.BindsOnce b' := by
  induction h with
  | refl => exact .of_eq rfl rfl
  | use n running u _ ih => exact ih.trans (s.bindsOnce_use n running u _)
  | action a ha _ ih => exact ih.trans (bindsOnce_after ha _)
  | closeScope token _ ih => exact ih.trans (.of_eq rfl rfl)

end Setting

/-! ### Scopes -/

/-- In the scope the name stands for the value. -/
def Shows (scope : Scope) (name : String) (v : Value) : Prop :=
  ∃ d, v.marshal = .ok d ∧ Assoc.last? name scope = some d

/-- The values that the logic of a binding starts with, besides the two objects. -/
def logicEntries (binding : CallbackBinding) (event : Value) : List (String × Value) :=
  binding.names.entries.map (fun e => (e.1, e.2.toValue)) ++
    [("ctx", binding.context), ("ui", binding.names.toValue), ("event", event)]

/-- The fixed names hide those of widgets. -/
theorem last?_logicEntries (binding : CallbackBinding) (event : Value) (name : String) :
    Assoc.last? name (logicEntries binding event) =
      if name = "event" then some event
      else if name = "ui" then some binding.names.toValue
      else if name = "ctx" then some binding.context
      else (Assoc.last? name binding.names.entries).map WidgetHandle.toValue := by
  rw [logicEntries, Assoc.last?_append, Assoc.last?_map_snd]
  simp only [Assoc.last?_cons]
  by_cases hevent : name = "event"
  · subst hevent
    rfl
  by_cases hui : name = "ui"
  · subst hui
    rfl
  by_cases hctx : name = "ctx"
  · subst hctx
    rfl
  have hnone : Assoc.last? name ([] : List (String × Value)) = none := rfl
  simp [hevent, hui, hctx, hnone, Ne.symm hevent, Ne.symm hui, Ne.symm hctx]

/-- The names can always cross, so that it depends on the context and the event alone. -/
theorem depth_logicEntries_le_iff {binding : CallbackBinding} {event : Value} :
    (∀ e ∈ logicEntries binding event, e.2.depth ≤ nestingLimit) ↔
      binding.context.depth ≤ nestingLimit ∧ event.depth ≤ nestingLimit := by
  constructor
  · intro h
    constructor
    · exact h ("ctx", binding.context) (by simp [logicEntries])
    · exact h ("event", event) (by simp [logicEntries])
  · rintro ⟨hcontext, hevent⟩ e he
    simp only [logicEntries, List.mem_append, List.mem_map, List.mem_cons, List.not_mem_nil,
      or_false] at he
    rcases he with ⟨named, _, rfl⟩ | rfl | rfl | rfl
    · have hhandle : named.2.toValue.depth = 1 := rfl
      exact Nat.le_trans (Nat.le_of_eq hhandle) (by decide)
    · exact hcontext
    · have hnames : binding.names.toValue.depth ≤ 2 := BridgeState.depth_toValue (.names binding.names)
      exact Nat.le_trans hnames (by decide)
    · exact hevent

theorem marshal_of_le {v : Value} (h : v.depth ≤ nestingLimit) : v.marshal = .ok v.transcript :=
  Value.marshalAt_of_le 0 v (by omega)

theorem marshal_of_gt {v : Value} (h : nestingLimit < v.depth) :
    v.marshal = .error (.tooDeep nestingLimit) := Value.marshalAt_of_gt 0 v (by omega)

namespace Setting

theorem dispatchScope_eq (binding : CallbackBinding) (event : Value) :
    (dispatchScope binding event : List (String × HostValue κ)) =
      (logicEntries binding event).map fun e => (e.1, .value e.2) := by
  simp [dispatchScope, logicEntries]

variable [DecidableEq κ] {s : Setting σ η κ} {b b₁ : BridgeState σ η κ}

/-- Values that can cross come before whatever else is put in scope. -/
theorem bindScope_values {entries : List (String × Value)}
    (hdepth : ∀ e ∈ entries, e.2.depth ≤ nestingLimit) {rest : List (String × HostValue κ)}
    {scope : Scope} (hrest : s.bindScope rest b = (some scope, b₁)) :
    s.bindScope (entries.map (fun e => (e.1, .value e.2)) ++ rest) b =
      (some (entries.map (fun e => (e.1, e.2.transcript)) ++ scope), b₁) := by
  induction entries with
  | nil => exact hrest
  | cons e tail ih =>
    obtain ⟨name, v⟩ := e
    have hv : v.marshal = .ok v.transcript := marshal_of_le (hdepth (name, v) List.mem_cons_self)
    have htail := ih fun e he => hdepth e (List.mem_cons_of_mem _ he)
    simp only [List.map_cons, List.cons_append, bindScope, BridgeState.lower, hv, htail]

/-- One value that cannot cross, and there is no scope. -/
theorem bindScope_values_of_gt {entries : List (String × Value)} {name : String} {v : Value}
    (hmem : (name, v) ∈ entries) (hdepth : nestingLimit < v.depth) (rest : List (String × HostValue κ)) :
    (s.bindScope (entries.map (fun e => (e.1, .value e.2)) ++ rest) b).1 = none := by
  induction entries with
  | nil => cases hmem
  | cons e tail ih =>
    obtain ⟨name', v'⟩ := e
    simp only [List.map_cons, List.cons_append, bindScope, BridgeState.lower]
    rcases List.mem_cons.mp hmem with heq | hmem
    · cases heq
      simp only [marshal_of_gt hdepth]
    · split
      · rfl
      · split
        · rfl
        · next hscope =>
          have hnone := ih hmem
          rw [hscope] at hnone
          cases hnone

/-- The last names of a scope: those of the two objects. -/
structure ShowsObjects (s : Setting σ η κ) (scope : Scope) (b : BridgeState σ η κ) : Prop where
  sys : (∀ o, s.callback ≠ some ("sys", o)) →
    ∃ h, Assoc.last? "sys" scope = some (.handle h) ∧ b.handles.find? h = some .system
  exposed : ∀ name o, s.callback = some (name, o) →
    ∃ h, Assoc.last? name scope = some (.handle h) ∧ b.handles.find? h = some o
  others : ∀ name, name ≠ "sys" → (∀ o, s.callback ≠ some (name, o)) → Assoc.last? name scope = none

omit [DecidableEq κ] in
theorem find?_adopt_self (t : HandleTable (ObjectRef κ)) (h : ObjectHandle) (o : ObjectRef κ) :
    (t.adopt h o).find? h = some o := by
  rw [HandleTable.find?, HandleTable.get?_adopt_self, Option.map_some]

/-- The two objects are adopted under fresh handles. -/
theorem bindScope_fixedBindings (s : Setting σ η κ) (b : BridgeState σ η κ) :
    ∃ scope b₁, s.bindScope s.fixedBindings b = (some scope, b₁) ∧ s.ShowsObjects scope b₁ := by
  have hsys := find?_adopt_self b.handles ⟨b.counters.handle⟩ .system
  cases hcallback : s.callback with
  | none =>
    refine ⟨[("sys", .handle ⟨b.counters.handle⟩)], (b.adopt s.family .system).2, ?_, ?_, ?_, ?_⟩
    · simp only [fixedBindings, hcallback]
      rfl
    · exact fun _ => ⟨_, rfl, hsys⟩
    · intro name o h
      rw [hcallback] at h
      cases h
    · intro name hname _
      exact if_neg (Ne.symm hname)
  | some callback =>
    obtain ⟨name, o⟩ := callback
    have hsecond : (⟨b.counters.handle + 1⟩ : ObjectHandle) ≠ ⟨b.counters.handle⟩ := by simp
    refine ⟨[("sys", .handle ⟨b.counters.handle⟩), (name, .handle ⟨b.counters.handle + 1⟩)],
      ((b.adopt s.family .system).2.adopt s.family o).2, ?_, ?_, ?_, ?_⟩
    · simp only [fixedBindings, hcallback]
      rfl
    · intro hname
      have hother : name ≠ "sys" := fun h => hname o (h ▸ hcallback)
      refine ⟨⟨b.counters.handle⟩, ?_, ?_⟩
      · simp [Assoc.last?, Assoc.find?_cons, hother]
      · rw [← hsys]
        exact congrArg (Option.map HandleEntry.object) (HandleTable.get?_adopt_of_ne hsecond _ _)
    · intro name' o' h
      rw [hcallback] at h
      cases h
      refine ⟨⟨b.counters.handle + 1⟩, ?_, find?_adopt_self _ _ _⟩
      simp [Assoc.last?, Assoc.find?_cons]
    · intro name' hname' hcallback'
      have hother : name ≠ name' := fun h => hcallback' o (h ▸ hcallback)
      simp [Assoc.last?, Assoc.find?_cons, hother, Ne.symm hname']

/-! ### What the logic sees -/

/-- The scope of the logic of a binding, and the state in which it starts. -/
def logicScope (s : Setting σ η κ) (binding : CallbackBinding) (event : Value)
    (b : BridgeState σ η κ) : Option Scope × BridgeState σ η κ :=
  s.bindScope (dispatchScope binding event ++ s.fixedBindings) b.openScope.2

/-- The logic runs in its scope. -/
theorem dispatchBy_of_logicScope {id : WidgetId} {binding : CallbackBinding} {event : Value}
    (hbound : b.callbacks.find? id = some binding) {source : String}
    (hdecode : binding.logic.decode = .ok source) {scope : Scope}
    (hscope : s.logicScope binding event b = (some scope, b₁)) {script : Script}
    (hstart : s.engine.start ⟨b₁.classes.all⟩ scope source = some script) (n : Nat)
    (running : List (ObjectRef κ)) :
    dispatchBy ((s.level (n + 1)).evaluate running) id event b =
      let (completed, b₂) := script.run (s.serveScript (s.level n) running) b₁
      (some (if completed then .ok else .runtimeError), b₂.closeScope b.openScope.1) := by
  simp only [logicScope] at hscope
  simp only [dispatchBy, CallbackRegistry.fire, hbound, Option.map_some, level, evaluateOver, hdecode,
    runSource, hscope, hstart]

/-- What the logic of a widget sees: its context and its event, all names of its render, the two
    objects, and under every name that is not fixed the last widget made under it. -/
structure Sees (s : Setting σ η κ) (scope : Scope) (b : BridgeState σ η κ) (context event : Value)
    (made : List Made) : Prop where
  ctx : Shows scope "ctx" context
  ui : Shows scope "ui" (Rendering.ofMade made).names.toValue
  event : Shows scope "event" event
  sys : ∃ h, Assoc.last? "sys" scope = some (.handle h) ∧ b.handles.find? h = some .system
  exposed : ∀ name o, s.callback = some (name, o) →
    ∃ h, Assoc.last? name scope = some (.handle h) ∧ b.handles.find? h = some o
  named : ∀ name handle, name ∉ reservedNames → (∀ o, s.callback ≠ some (name, o)) →
    lastMade? made name = some handle → Shows scope name handle.toValue
  unnamed : ∀ name, name ∉ reservedNames → (∀ o, s.callback ≠ some (name, o)) →
    lastMade? made name = none → Assoc.last? name scope = none

/-- The scope when everything can cross: the values, and then the two objects. -/
def scopeWith (binding : CallbackBinding) (event : Value) (objects : Scope) : Scope :=
  (logicEntries binding event).map (fun e => (e.1, e.2.transcript)) ++ objects

variable {binding : CallbackBinding} {event : Value} {objects scope : Scope} {name : String}

omit [DecidableEq κ] in
theorem last?_scopeWith (binding : CallbackBinding) (event : Value) (objects : Scope) (name : String) :
    Assoc.last? name (scopeWith binding event objects) =
      (Assoc.last? name objects).or
        ((Assoc.last? name (logicEntries binding event)).map Value.transcript) := by
  rw [scopeWith, Assoc.last?_append, Assoc.last?_map_snd]

theorem last?_scopeWith_of_object {d : Data} (h : Assoc.last? name objects = some d) :
    Assoc.last? name (scopeWith binding event objects) = some d := by
  rw [last?_scopeWith, h, Option.some_or]

theorem shows_scopeWith (hdepth : ∀ e ∈ logicEntries binding event, e.2.depth ≤ nestingLimit)
    (hobjects : Assoc.last? name objects = none) {v : Value}
    (hv : Assoc.last? name (logicEntries binding event) = some v) :
    Shows (scopeWith binding event objects) name v := by
  have hmem : (name, v) ∈ logicEntries binding event :=
    List.mem_reverse.mp (Assoc.mem_of_find? hv)
  refine ⟨v.transcript, marshal_of_le (hdepth _ hmem), ?_⟩
  rw [last?_scopeWith, hobjects, hv, Option.none_or, Option.map_some]

theorem logicScope_of_le (hdepth : ∀ e ∈ logicEntries binding event, e.2.depth ≤ nestingLimit)
    (b : BridgeState σ η κ) :
    ∃ objects b₁, s.ShowsObjects objects b₁ ∧
      s.logicScope binding event b = (some (scopeWith binding event objects), b₁) := by
  obtain ⟨objects, b₁, hobjects, hshows⟩ := s.bindScope_fixedBindings b.openScope.2
  refine ⟨objects, b₁, hshows, ?_⟩
  rw [logicScope, dispatchScope_eq]
  exact bindScope_values hdepth hobjects

/-- Nothing runs when the context or the event is nested too deeply. -/
theorem isSome_logicScope_iff :
    (s.logicScope binding event b).1.isSome ↔
      binding.context.depth ≤ nestingLimit ∧ event.depth ≤ nestingLimit := by
  rw [← depth_logicEntries_le_iff]
  constructor
  · intro hsome e he
    refine Nat.le_of_not_lt fun hdepth => ?_
    have hnone := bindScope_values_of_gt (s := s) (b := b.openScope.2) he hdepth s.fixedBindings
    rw [logicScope, dispatchScope_eq, hnone] at hsome
    cases hsome
  · intro hdepth
    obtain ⟨objects, b₁, -, hscope⟩ := logicScope_of_le (s := s) hdepth b
    rw [hscope]
    rfl

/-- Under a name that is not fixed, the values have the last widget made under it. -/
theorem last?_logicEntries_of_not_fixed {made : List Made}
    (hnames : binding.names = (Rendering.ofMade made).names) (hname : name ∉ reservedNames) :
    Assoc.last? name (logicEntries binding event) =
      (lastMade? made name).map WidgetHandle.toValue := by
  simp only [reservedNames, List.mem_cons, List.not_mem_nil, or_false, not_or] at hname
  obtain ⟨-, hctx, hui, hevent⟩ := hname
  rw [last?_logicEntries, if_neg hevent, if_neg hui, if_neg hctx, hnames,
    (Rendering.sorted_names_ofMade made).last?_eq_find?, ← Rendering.find?_names_ofMade]
  rfl

theorem sees_of_logicScope {made : List Made}
    (hfixed : ∀ name o, s.callback = some (name, o) → name ∉ reservedNames)
    (hnames : binding.names = (Rendering.ofMade made).names)
    (hscope : s.logicScope binding event b = (some scope, b₁)) :
    s.Sees scope b₁ binding.context event made := by
  have hdepth : ∀ e ∈ logicEntries binding event, e.2.depth ≤ nestingLimit := by
    rw [depth_logicEntries_le_iff, ← isSome_logicScope_iff (s := s) (b := b), hscope]
    rfl
  obtain ⟨objects, b₂, hobjects, heq⟩ := logicScope_of_le (s := s) hdepth b
  rw [heq] at hscope
  cases hscope
  -- A fixed name is not that of the callback object, so only `sys` is the name of an object.
  have hfree : ∀ name ∈ reservedNames, ∀ o, s.callback ≠ some (name, o) := by
    intro name hname o hcallback
    exact hfixed name o hcallback hname
  have hvalue : ∀ name ∈ reservedNames, name ≠ "sys" → Assoc.last? name objects = none := by
    intro name hname hsys
    exact hobjects.others name hsys (hfree name hname)
  have hother : ∀ name ∉ reservedNames, (∀ o, s.callback ≠ some (name, o)) →
      Assoc.last? name objects = none := by
    intro name hname hcallback
    refine hobjects.others name ?_ hcallback
    rintro rfl
    exact hname (by decide)
  constructor
  · exact shows_scopeWith hdepth (hvalue "ctx" (by decide) (by decide)) (last?_logicEntries _ _ _)
  · rw [← hnames]
    exact shows_scopeWith hdepth (hvalue "ui" (by decide) (by decide)) (last?_logicEntries _ _ _)
  · exact shows_scopeWith hdepth (hvalue "event" (by decide) (by decide)) (last?_logicEntries _ _ _)
  · obtain ⟨h, hsys, hfound⟩ := hobjects.sys (hfree "sys" (by decide))
    exact ⟨h, last?_scopeWith_of_object hsys, hfound⟩
  · intro name o hcallback
    obtain ⟨h, hexposed, hfound⟩ := hobjects.exposed name o hcallback
    exact ⟨h, last?_scopeWith_of_object hexposed, hfound⟩
  · intro name handle hname hcallback hmade
    refine shows_scopeWith hdepth (hother name hname hcallback) ?_
    rw [last?_logicEntries_of_not_fixed hnames hname, hmade, Option.map_some]
  · intro name hname hcallback hmade
    rw [last?_scopeWith, hother name hname hcallback,
      last?_logicEntries_of_not_fixed hnames hname, hmade]
    rfl

end Setting

/-! ### Bridges -/

theorem not_reserved_of_check {name : String} (h : checkExposedName name = .ok ()) :
    name ∉ reservedNames := by
  unfold checkExposedName at h
  split at h
  · cases h
  · split at h
    · cases h
    · next hreserved => exact fun hmem => hreserved (List.contains_iff_mem.mpr hmem)

namespace Bridge

variable {platform : Platform σ} {host : Host η κ} {engine : Engine} {layout : LayoutConfig}
  {callback : Option (ObjectRef κ)} {given : Option String} {p : σ} {h : η} {counters : Counters}
  {bridge : Bridge σ η κ}

/-- The name of the callback object of a bridge that was started is none of the fixed names. -/
theorem not_reserved_of_start
    (hstart : start platform host engine layout callback given p h counters = .ok bridge)
    (name : String) (o : ObjectRef κ) (hname : bridge.setting.callback = some (name, o)) :
    name ∉ reservedNames := by
  unfold start at hstart
  cases callback with
  | none =>
    cases hstart
    cases hname
  | some object =>
    simp only at hstart
    split at hstart
    · cases hstart
    · next hcheck =>
      cases hstart
      cases hname
      exact not_reserved_of_check hcheck

/-- The bindings that a render makes, on a bridge that was started and then brought into any state.
    Their names are those that the render hands back, in which a name stands for the last widget made
    under it.  Whatever is done to the bridge since, a widget that is bound has the binding that the
    render made, and when it fires, the logic sees the context of the render, the event, all names of
    the render, the two objects, and under any other name the last widget made under it.  It runs
    unless the context or the event is nested too deeply. -/
theorem dispatch_scope [DecidableEq κ]
    (hstart : start platform host engine layout callback given p h counters = .ok bridge)
    (b : BridgeState σ η κ) (context description : Value) :
    let s := bridge.setting
    let made := b.madeBy s.platform s.layout context description
    let rendered := (b.render s.platform s.layout context description).2
    (∀ table, (b.render s.platform s.layout context description).1 = .ok (.names table) →
      table = (Rendering.ofMade made).names) ∧
    (∀ name, (Rendering.ofMade made).names.find? name = lastMade? made name) ∧
    (∀ m ∈ made, ∀ program, m.plan.logic = some program →
      rendered.callbacks.find? m.handle.id =
        some ⟨m.handle.id, context, program, (Rendering.ofMade made).names⟩) ∧
    (∀ id binding, b.callbacks.find? id = none → rendered.callbacks.find? id = some binding →
      (∃ m ∈ made, m.handle.id = id ∧ m.plan.logic = some binding.logic) ∧
      ∀ later current, s.Later rendered later → later.callbacks.find? id = some current →
        current = binding ∧
        ∀ event,
          ((s.logicScope binding event later).1.isSome ↔
            context.depth ≤ nestingLimit ∧ event.depth ≤ nestingLimit) ∧
          ∀ scope b₁, s.logicScope binding event later = (some scope, b₁) →
            s.Sees scope b₁ context event made ∧
            ∀ n running source script, binding.logic.decode = .ok source →
              s.engine.start ⟨b₁.classes.all⟩ scope source = some script →
              Setting.dispatchBy ((s.level (n + 1)).evaluate running) id event later =
                let (completed, b₂) := script.run (s.serveScript (s.level n) running) b₁
                (some (if completed then .ok else .runtimeError),
                  b₂.closeScope later.openScope.1)) := by
  intro s made rendered
  have hrendered : BridgeState.Rendered context made b rendered :=
    BridgeState.rendered_render s.platform s.layout context description b
  refine ⟨fun _ => BridgeState.names_of_render, Rendering.find?_names_ofMade made,
    hrendered.bound, ?_⟩
  intro id binding hunbound hbound
  obtain ⟨m, hm, hid, program, hlogic⟩ := hrendered.made_of_bound hunbound hbound
  subst hid
  obtain rfl : _ = binding := Option.some.inj ((hrendered.bound m hm program hlogic).symm.trans hbound)
  refine ⟨⟨m, hm, rfl, hlogic⟩, ?_⟩
  intro later current hlater hcurrent
  obtain rfl : current = _ := by
    rcases hlater.bindsOnce.bound _ _ hcurrent with hsame | hunborn
    · exact Option.some.inj (hsame.symm.trans hbound)
    · exact absurd (hrendered.born m hm) hunborn
  refine ⟨rfl, fun event => ⟨Setting.isSome_logicScope_iff, ?_⟩⟩
  intro scope b₁ hscope
  refine ⟨Setting.sees_of_logicScope (not_reserved_of_start hstart) rfl hscope, ?_⟩
  intro n running source script hdecode hscript
  exact Setting.dispatchBy_of_logicScope hcurrent hdecode hscope hscript n running

/-! ### A dispatch -/

/-- A button with logic, and labels that share its name, or have the name of the context or of the
    callback object. -/
def colliding : Value :=
  .list [.string "vertical",
    .list [.string "button", .map [("logic", .string "a"), ("name", .string "a")]],
    .list [.string "label", .map [("name", .string "a"), ("text", .string "hello")]],
    .list [.string "label", .map [("name", .string "ctx")]],
    .list [.string "label", .map [("name", .string "callback")]]]

/-- The logic of the button sees the label in its own place, and no label in the place of the context
    or of the callback object. -/
theorem dispatch_scope_colliding :
    let b : BridgeState Recorder (List (List Value)) EchoClass :=
      .initial .standard [] .first
    let s := Setting.rehearsal
    start s.platform s.host s.engine s.layout (some echoObject) none b.platform b.host .first =
      .ok ⟨s, b⟩ ∧
    ∃ rendered binding, (b.render s.platform s.layout (.string "here") colliding).2 = rendered ∧
      b.callbacks.find? 1001 = none ∧ rendered.callbacks.find? 1001 = some binding ∧
      ∃ scope b₁, s.logicScope binding .nil rendered = (some scope, b₁) ∧
        Shows scope "ctx" (.string "here") ∧
        Shows scope "a" (WidgetHandle.mk 1002 70 46).toValue ∧
        ∃ h, Assoc.last? "callback" scope = some (.handle h) ∧ b₁.handles.find? h = some echoObject := by
  intro b s
  have hcheck : checkExposedName "callback" = .ok () := by decide
  have hstart : start s.platform s.host s.engine s.layout (some echoObject) none b.platform b.host
      .first = .ok ⟨s, b⟩ := by
    simp only [start, Option.getD_none, defaultExposedName, hcheck]
    rfl
  have hnone : b.callbacks.find? 1001 = none := rfl
  have hbound : ((b.render s.platform s.layout (.string "here") colliding).2.callbacks.find?
      1001).isSome := by decide +kernel
  have hlabel : lastMade? (b.madeBy s.platform s.layout (.string "here") colliding) "a" =
      some ⟨1002, 70, 46⟩ := by decide +kernel
  obtain ⟨-, -, -, hscope⟩ := dispatch_scope hstart b (.string "here") colliding
  obtain ⟨rendered, hrendered⟩ :
      ∃ rendered, (b.render s.platform s.layout (.string "here") colliding).2 = rendered := ⟨_, rfl⟩
  rw [hrendered] at hbound
  simp only [hrendered] at hscope
  obtain ⟨binding, hbinding⟩ := Option.isSome_iff_exists.mp hbound
  obtain ⟨-, hlater⟩ := hscope 1001 binding hnone hbinding
  obtain ⟨-, hevent⟩ := hlater rendered binding .refl hbinding
  obtain ⟨hcrosses, hsees⟩ := hevent .nil
  obtain ⟨scope, hsome⟩ := Option.isSome_iff_exists.mp (hcrosses.mpr ⟨by decide, by decide⟩)
  have hpair : s.logicScope binding .nil rendered = (some scope, (s.logicScope binding .nil rendered).2) :=
    Prod.ext hsome rfl
  obtain ⟨hshown, -⟩ := hsees scope _ hpair
  refine ⟨hstart, rendered, binding, hrendered, hnone, hbinding, scope, _, hpair, hshown.ctx, ?_, ?_⟩
  · exact hshown.named "a" _ (by decide) (by simp [s, Setting.rehearsal]) hlabel
  · exact hshown.exposed "callback" echoObject rfl

end Bridge
end ScriptBridge
