/-
  ScriptBridge/Proofs/Bridge/Startable.lean
  =========================================
  **What a script has bound can be started.**

  The logic of a widget finds the context of its render in its scope, so the
  context has to cross back into a script.  It came out of one: as an argument of
  a function, or as one of the arguments in the list of a call by name.  Nothing
  that comes out of a script is nested more deeply than what may enter one, and
  nothing that is done to a bridge changes the context of a binding.

  So as long as the widgets of a bridge were asked for by scripts, all their
  contexts can cross, and so can the names of a render.  Only the event is left
  to keep the logic from starting.
-/
import ScriptBridge.Proofs.Bridge.Balance
import ScriptBridge.Proofs.Bridge.DispatchScope

namespace ScriptBridge

variable {σ η κ : Type}

/-- The value is nested no more deeply than what may enter a script. -/
def Value.Portable (v : Value) : Prop := v.depth ≤ nestingLimit

/-- What comes out of a script may enter one. -/
theorem Value.portable_of_unmarshal {d : Data} {v : Value} (h : d.unmarshal = .ok v) : v.Portable := by
  obtain ⟨hwithin, -, -, hdepth⟩ := Data.crossed_of_unmarshalAt 0 d v h
  rw [Portable, hdepth]
  omega

theorem Value.portable_of_unmarshalAll {args : List Data} {values : List Value}
    (h : Data.unmarshalAll args = .ok values) : ∀ v ∈ values, v.Portable := by
  induction args generalizing values with
  | nil =>
    cases h
    exact fun v hv => absurd hv List.not_mem_nil
  | cons d rest ih =>
    unfold Data.unmarshalAll at h
    split at h
    · cases h
    · next first hfirst =>
      split at h
      · cases h
      · next others hothers =>
        cases h
        exact List.forall_mem_cons.mpr ⟨portable_of_unmarshal hfirst, ih hothers⟩

/-! ### Contexts of bindings -/

/-- All contexts of bindings may enter a script. -/
def BridgeState.PortableContexts (b : BridgeState σ η κ) : Prop :=
  ∀ id binding, b.callbacks.find? id = some binding → binding.context.Portable

namespace BridgeState.PortableContexts

variable {b b' : BridgeState σ η κ}

theorem of_callbacks (hb : b.PortableContexts) (hcallbacks : b'.callbacks = b.callbacks) :
    b'.PortableContexts := by
  unfold PortableContexts
  rwa [hcallbacks]

/-- A render binds its widgets in its own context, and leaves all other bindings. -/
theorem of_rendered (hb : b.PortableContexts) {context : Value} (hcontext : context.Portable)
    {made : List Made} (h : Rendered context made b b') : b'.PortableContexts := by
  intro id binding hbound
  by_cases hmem : id ∈ (Rendering.ofMade made).bound
  · obtain ⟨m, hm, rfl, hlogic⟩ := Rendering.mem_bound_ofMade.mp hmem
    obtain ⟨program, hprogram⟩ := Option.isSome_iff_exists.mp hlogic
    rw [h.bound m hm program hprogram] at hbound
    cases hbound
    exact hcontext
  · rw [h.others id hmem] at hbound
    exact hb id binding hbound

end BridgeState.PortableContexts

namespace Setting

variable [DecidableEq κ] {s : Setting σ η κ} {b b' : BridgeState σ η κ}

/-- Besides builds, no action makes a binding or changes one. -/
theorem portableContexts_after {a : Action η κ} (ha : a.isBuild = false) (hb : b.PortableContexts) :
    (s.after a b).PortableContexts := by
  cases a with
  | build context plan r => cases ha
  | put target frame =>
    simp only [after, act]
    rcases b.put_cases s.platform target frame with ⟨e, heq⟩ | ⟨id, heq⟩
    · rwa [heq]
    · rw [heq]
      exact hb.of_callbacks (BridgeState.place_callbacks id frame)
  | setText target text =>
    obtain ⟨p, heq⟩ := b.setText_eq s.platform target text
    simp only [after, act, heq]
    exact hb.of_callbacks rfl
  | destroy id =>
    exact fun id' binding hbound => hb id' binding (BridgeState.find?_of_destroyWidget hbound)
  | _ => exact hb.of_callbacks rfl

theorem admitsGiven_portableContexts (s : Setting σ η κ) :
    s.AdmitsGiven (fun _ => Value.Portable) fun b b' => b.PortableContexts → b'.PortableContexts where
  refl _ hb := hb
  trans hfirst hsecond hb := hsecond (hfirst hb)
  act _ _ _ _ hbuild hb := portableContexts_after hbuild hb
  render hcontext description hb :=
    hb.of_rendered hcontext (BridgeState.rendered_render s.platform s.layout _ description _)
  buildAlone hcontext _ _ hb :=
    hb.of_rendered hcontext (BridgeState.rendered_buildAlone s.platform _ _ _)
  scope hinner hb := (hinner (hb.of_callbacks rfl)).of_callbacks rfl

omit [DecidableEq κ] in
/-- Scripts only ask for widgets with values that come out of them. -/
theorem crosses_portable (native : Native) (args : List Data) (b : BridgeState σ η κ) :
    Crosses (fun _ => Value.Portable) native args b where
  call _ hargs := fun _ _ _ _ => Value.portable_of_unmarshalAll hargs
  render _ hcontext := Value.portable_of_unmarshal hcontext

theorem removesWithin_portableContexts (n : Nat) (running : List (ObjectRef κ)) (task : Task η κ)
    (b : BridgeState σ η κ) :
    s.RemovesWithin (fun b b' => b.PortableContexts → b'.PortableContexts) n running task b :=
  removesWithin_of_after (fun _ _ hbuild _ => portableContexts_after hbuild) n running task b

/-! ### States that scripts lead to -/

/-- A state of a bridge whose widgets were asked for by scripts: after any uses, in the course of any
    evaluation or method call, with any scopes opened and closed.  What scripts ask for is not restricted.
    A host method or the owner may only ask for a widget with values that could have come out of a
    script. -/
inductive Scripted (s : Setting σ η κ) : BridgeState σ η κ → Prop where
  | initial (p : σ) (h : η) (counters : Counters) : Scripted s (.initial p h counters)
  | use {b : BridgeState σ η κ} {n : Nat} {running : List (ObjectRef κ)} {u : Use η κ}
      (h : Scripted s b) (hgranted : u.Granted s (fun _ => Value.Portable) n running b) :
      Scripted s (s.use n running u b)
  | served {b b' : BridgeState σ η κ} {n : Nat} {running : List (ObjectRef κ)} {task : Task η κ}
      {r : HostRequest η κ} (h : Scripted s b)
      (hgrants : s.GrantsWithin (fun _ => Value.Portable) n running task b)
      (hserves : s.Serves n running task b r b') : Scripted s b'
  | action {b : BridgeState σ η κ} {a : Action η κ} (h : Scripted s b) (ha : a.isBuild = false) :
      Scripted s (s.after a b)
  | closeScope {b : BridgeState σ η κ} (h : Scripted s b) (token : ScopeToken) :
      Scripted s (b.closeScope token)

theorem Scripted.portableContexts (h : s.Scripted b) : b.PortableContexts := by
  have hadmits := s.admitsGiven_portableContexts
  induction h with
  | initial p h counters => exact fun id binding hbound => by cases hbound
  | @use b n running u _ hgranted ih =>
    have hcrosses := u.crosses_of_forall s crosses_portable n running b
    exact hadmits.use removesWithin_portableContexts hgranted hcrosses ih
  | @served b b' n running task r _ hgrants hserves ih =>
    have hpermits : s.Permits (fun _ => Value.Portable) _ n running task b :=
      ⟨removesWithin_portableContexts n running task b, hgrants,
        fun native args b' _ => crosses_portable native args b'⟩
    refine hadmits.demanded id (fun hfirst hsecond hb => hsecond (hfirst hb)) ?_ hpermits hserves ih
    exact fun b hb => hb.of_callbacks rfl
  | action _ ha ih => exact portableContexts_after ha ih
  | closeScope _ token ih => exact ih.of_callbacks rfl

/-! ### Dispatches -/

variable {id : WidgetId} {binding : CallbackBinding} {event : Value} {n : Nat}
  {running : List (ObjectRef κ)}

theorem dispatchBy_of_undecodable (hbound : b.callbacks.find? id = some binding) {e : Utf8.Fault}
    (hdecode : binding.logic.decode = .error e) :
    dispatchBy ((s.level (n + 1)).evaluate running) id event b = (some .badProgram, b) := by
  simp only [dispatchBy, CallbackRegistry.fire, hbound, Option.map_some, evaluate_of_undecodable hdecode]

/-- With a scope the engine is started, and may refuse the source. -/
theorem dispatchBy_of_scope (hbound : b.callbacks.find? id = some binding) {source : String}
    (hdecode : binding.logic.decode = .ok source) {scope : Scope} {b₁ : BridgeState σ η κ}
    (hscope : s.logicScope binding event b = (some scope, b₁)) :
    dispatchBy ((s.level (n + 1)).evaluate running) id event b =
      match s.engine.start ⟨b₁.classes.all⟩ scope source with
      | none => (some .parseError, b₁.closeScope b.openScope.1)
      | some script =>
        let (completed, b₂) := script.run (s.serveScript (s.level n) running) b₁
        (some (if completed then .ok else .runtimeError), b₂.closeScope b.openScope.1) := by
  cases hstart : s.engine.start ⟨b₁.classes.all⟩ scope source with
  | none =>
    simp only [logicScope] at hscope
    simp only [dispatchBy, CallbackRegistry.fire, hbound, Option.map_some, level, evaluateOver, hdecode,
      runSource, hscope, hstart]
  | some script => exact dispatchBy_of_logicScope hbound hdecode hscope hstart n running

/-- Without a scope the engine is not started. -/
theorem dispatchBy_of_no_scope (hbound : b.callbacks.find? id = some binding) {source : String}
    (hdecode : binding.logic.decode = .ok source) (hscope : (s.logicScope binding event b).1 = none) :
    (dispatchBy ((s.level (n + 1)).evaluate running) id event b).1 = some .runtimeError := by
  obtain ⟨b₁, hnone⟩ : ∃ b₁, s.logicScope binding event b = (none, b₁) := ⟨_, Prod.ext hscope rfl⟩
  simp only [logicScope] at hnone
  simp only [dispatchBy, CallbackRegistry.fire, hbound, Option.map_some, level, evaluateOver, hdecode,
    runSource, hnone]

/-- When the context may enter a script, only the event can stand in the way of a scope. -/
theorem logicScope_eq_none_iff (hcontext : binding.context.Portable) :
    (s.logicScope binding event b).1 = none ↔ nestingLimit < event.depth := by
  rw [← Option.not_isSome_iff_eq_none, isSome_logicScope_iff, ← Nat.not_le, not_iff_not]
  exact and_iff_right hcontext

/-- What is bound on a bridge whose widgets were asked for by scripts.  Its context may enter a script.
    Logic that does not decode is refused before anything is done.  Any other logic is started by the
    engine, with all names of its render, the context, the event and the two objects in scope, whenever
    the event may enter a script.  There is no scope exactly if the event may not, and that ends the
    dispatch as an error at run time does. -/
theorem scripted_bindings_start (hb : s.Scripted b) (hbound : b.callbacks.find? id = some binding) :
    binding.context.depth ≤ nestingLimit ∧
    (∀ event n running e, binding.logic.decode = .error e →
      dispatchBy ((s.level (n + 1)).evaluate running) id event b = (some .badProgram, b)) ∧
    (∀ event : Value, event.depth ≤ nestingLimit →
      (∀ entry ∈ logicEntries binding event, entry.2.marshal = .ok entry.2.transcript) ∧
      ∃ objects b₁, s.ShowsObjects objects b₁ ∧
        s.logicScope binding event b = (some (scopeWith binding event objects), b₁) ∧
        ∀ n running source, binding.logic.decode = .ok source →
          dispatchBy ((s.level (n + 1)).evaluate running) id event b =
            match s.engine.start ⟨b₁.classes.all⟩ (scopeWith binding event objects) source with
            | none => (some .parseError, b₁.closeScope b.openScope.1)
            | some script =>
              let (completed, b₂) := script.run (s.serveScript (s.level n) running) b₁
              (some (if completed then .ok else .runtimeError), b₂.closeScope b.openScope.1)) ∧
    (∀ event, (s.logicScope binding event b).1 = none ↔ nestingLimit < event.depth) ∧
    (∀ event n running source, binding.logic.decode = .ok source → nestingLimit < event.depth →
      (dispatchBy ((s.level (n + 1)).evaluate running) id event b).1 = some .runtimeError) := by
  have hcontext : binding.context.Portable := hb.portableContexts id binding hbound
  refine ⟨hcontext, ?undecodable, ?started, fun _ => logicScope_eq_none_iff hcontext, ?tooDeep⟩
  case undecodable =>
    intro event n running e hdecode
    exact dispatchBy_of_undecodable hbound hdecode
  case started =>
    intro event hevent
    have hdepth : ∀ entry ∈ logicEntries binding event, entry.2.depth ≤ nestingLimit :=
      depth_logicEntries_le_iff.mpr ⟨hcontext, hevent⟩
    obtain ⟨objects, b₁, hobjects, hscope⟩ := logicScope_of_le (s := s) hdepth b
    refine ⟨fun entry hentry => marshal_of_le (hdepth entry hentry), objects, b₁, hobjects, hscope, ?_⟩
    intro n running source hdecode
    exact dispatchBy_of_scope hbound hdecode hscope
  case tooDeep =>
    intro event n running source hdecode hevent
    exact dispatchBy_of_no_scope hbound hdecode ((logicScope_eq_none_iff hcontext).mpr hevent)

/-- Lists within each other, with a description of a button that has logic. -/
def nestedCall (depth : Nat) : List Data :=
  [Nat.repeat (fun d => .array [d]) depth .unit,
    .array [.string "button", .map [("logic", .string "1")]]]

/-- The deepest context that a script can ask a widget for still lets it start. -/
theorem scripted_bindings_start_deepest :
    let s := Setting.rehearsal
    let b := s.use 0 [] (.native .ui (nestedCall 64)) (.initial .standard [] .first)
    s.Scripted b ∧ ∃ binding, b.callbacks.find? 1001 = some binding ∧ binding.context.depth = 64 ∧
      ∀ event : Value, event.depth ≤ 64 → (s.logicScope binding event b).1.isSome := by
  intro s b
  have hscripted : s.Scripted b := by
    refine .use (.initial _ _ _) ?_
    intro handle method rest values hcall
    cases hcall
  have hdeep : (b.callbacks.find? 1001).map (fun binding => binding.context.depth) = some 64 := by
    decide +kernel
  obtain ⟨binding, hbound, hdepth⟩ := Option.map_eq_some_iff.mp hdeep
  obtain ⟨-, -, hstarted, -, -⟩ := scripted_bindings_start hscripted hbound
  refine ⟨hscripted, binding, hbound, hdepth, fun event hevent => ?_⟩
  obtain ⟨-, objects, b₁, -, hscope, -⟩ := hstarted event hevent
  rw [hscope]
  rfl

end Setting
end ScriptBridge
