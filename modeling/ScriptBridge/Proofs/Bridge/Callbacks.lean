/-
  ScriptBridge/Proofs/Bridge/Callbacks.lean
  =========================================
  **What a bridge will run when a widget fires, over whole histories.**

  Every action keeps the agreement of bindings and records with the history, so
  it holds whenever a bridge is looked at.  `callback_lifecycle` reads off what
  an owner relies on: a widget reacts with the logic of its creation from then
  on, and never again after its destruction.
-/
import ScriptBridge.Proofs.Bridge.Lifecycle

namespace ScriptBridge

variable {σ η κ : Type}

/-- The bindings and the records of the chronicle's state agree with its history. -/
def Chronicle.Orderly (c : Chronicle σ η κ) : Prop :=
  Lifecycle c.state.callbacks c.state.widgets c.created c.destroyed

theorem Chronicle.orderly_initial (platform : σ) (host : η) (counters : Counters) :
    (Chronicle.initial platform host counters : Chronicle σ η κ).Orderly := Lifecycle.initial

/-! ### Operations on a state -/

section Operations

variable {platform : Platform σ} {b : BridgeState σ η κ} {created : List Creation}
  {destroyed : List WidgetId}

theorem lifecycle_place (h : Lifecycle b.callbacks b.widgets created destroyed) (id : WidgetId)
    (frame : Frame) :
    Lifecycle (b.place platform id frame).2.callbacks (b.place platform id frame).2.widgets
      created destroyed := by
  rcases b.place_cases platform id frame with ⟨_, e, heq⟩ | ⟨e, _, _, heq⟩ | ⟨w, hw, hlive, _, heq⟩
  · rwa [heq]
  · rwa [heq]
  · rw [heq]
    exact h.set hw hlive rfl

theorem creation?_of_error {plan : WidgetPlan} {e : PlatformError}
    (h : b.creationAnswer platform plan = .error e) (context : Value) :
    b.creation? platform context plan = none := by
  simp only [BridgeState.creation?, BridgeState.creationAnswer] at h ⊢
  rw [h]

theorem creation?_of_ok {plan : WidgetPlan} {size : Size}
    (h : b.creationAnswer platform plan = .ok size) (context : Value) :
    b.creation? platform context plan = some ⟨b.counters.widget, context, plan⟩ := by
  simp only [BridgeState.creation?, BridgeState.creationAnswer] at h ⊢
  rw [h]

theorem lifecycle_create (h : Lifecycle b.callbacks b.widgets created destroyed) (context : Value)
    (names : NameTable) (plan : WidgetPlan) :
    Lifecycle (b.create platform context names plan).2.callbacks
      (b.create platform context names plan).2.widgets
      (created ++ (b.creation? platform context plan).toList) destroyed := by
  rcases b.create_cases platform context names plan with
    ⟨e, hanswer, heq⟩ | ⟨size, e, hanswer, hborn, heq⟩ | ⟨size, hanswer, hborn, heq⟩
  · rw [heq, creation?_of_error hanswer, Option.toList_none, List.append_nil]
    exact h
  · rw [heq, creation?_of_ok hanswer]
    -- The id has a record, so the creation that the platform accepted is not its origin.
    refine h.accept (Option.isSome_iff_ne_none.mpr fun hnone => hborn ?_)
    exact WidgetTable.stateOf_of_find?_none hnone
  · have hnone : b.widgets.find? b.counters.widget = none := by
      cases hw : b.widgets.find? b.counters.widget with
      | none => rfl
      | some w => exact absurd (WidgetTable.stateOf_of_find? hw ▸ hborn) (h.born _ w hw)
    rw [heq, creation?_of_ok hanswer]
    simp only [BridgeState.afterCreation, BridgeState.bindLogic_callbacks,
      BridgeState.bindLogic_widgets]
    exact h.create (k := ⟨b.counters.widget, context, plan⟩) hnone rfl names

theorem lifecycle_build (h : Lifecycle b.callbacks b.widgets created destroyed) (context : Value)
    (plan : WidgetPlan) (r : Rendering) :
    Lifecycle (b.build platform context plan r).2.2.callbacks
      (b.build platform context plan r).2.2.widgets
      (created ++ (b.creation? platform context plan).toList) destroyed :=
  BridgeState.build_invariant
    (I := fun b' => Lifecycle b'.callbacks b'.widgets
      (created ++ (b.creation? platform context plan).toList) destroyed)
    (lifecycle_create h context r.names plan) (fun r _ h => h.shareNames r.bound r.names)
    fun id frame _ h => lifecycle_place h id frame

theorem lifecycle_destroyWidget (h : Lifecycle b.callbacks b.widgets created destroyed)
    (id : WidgetId) :
    Lifecycle (b.destroyWidget id).2.callbacks (b.destroyWidget id).2.widgets created
      (if (b.destroyWidget id).1.toBool then id :: destroyed else destroyed) := by
  rcases b.destroyWidget_cases id with ⟨e, heq⟩ | ⟨w, hw, _, heq⟩
  · rw [heq]
    exact h
  · rw [heq]
    exact h.destroy hw rfl

end Operations

/-! ### Whole histories -/

namespace Setting

variable [DecidableEq κ] (s : Setting σ η κ)

theorem orderly_act (a : Action η κ) (c : Chronicle σ η κ) (h : c.Orderly) : (s.act a c).Orderly := by
  cases a with
  | closeScope =>
    simp only [act]
    split
    · exact h
    · exact h
  | build context plan r => exact lifecycle_build h context plan r
  | put target frame =>
    simp only [act]
    rcases c.state.put_cases s.platform target frame with ⟨e, heq⟩ | ⟨id, heq⟩
    · rwa [heq]
    · rw [heq]
      exact lifecycle_place h id frame
  | setText target text =>
    obtain ⟨p, heq⟩ := c.state.setText_eq s.platform target text
    simp only [act, heq]
    exact h
  | destroy id => exact lifecycle_destroyWidget h id
  | _ => exact h

theorem orderly_actAll (actions : List (Action η κ)) {c : Chronicle σ η κ} (h : c.Orderly) :
    (s.actAll actions c).Orderly := s.actAll_invariant s.orderly_act actions c h

/-- What is noted of creations and destructions stays noted. -/
theorem created_act (a : Action η κ) (c : Chronicle σ η κ) : c.created <+: (s.act a c).created := by
  cases a with
  | closeScope =>
    simp only [act]
    split <;> exact List.prefix_rfl
  | build context plan r => exact List.prefix_append ..
  | _ => exact List.prefix_rfl

theorem created_actAll (actions : List (Action η κ)) (c : Chronicle σ η κ) :
    c.created <+: (s.actAll actions c).created :=
  s.actAll_invariant (I := fun c' => c.created <+: c'.created)
    (fun a c' h => h.trans (s.created_act a c')) actions c List.prefix_rfl

theorem destroyed_act (a : Action η κ) (c : Chronicle σ η κ) :
    c.destroyed <:+ (s.act a c).destroyed := by
  cases a with
  | closeScope =>
    simp only [act]
    split <;> exact List.suffix_rfl
  | destroy id =>
    simp only [act]
    split
    · exact List.suffix_cons ..
    · exact List.suffix_rfl
  | _ => exact List.suffix_rfl

theorem destroyed_actAll (actions : List (Action η κ)) (c : Chronicle σ η κ) :
    c.destroyed <:+ (s.actAll actions c).destroyed :=
  s.actAll_invariant (I := fun c' => c.destroyed <:+ c'.destroyed)
    (fun a c' h => h.trans (s.destroyed_act a c')) actions c List.suffix_rfl

/-- Every noted creation has the logic that an action asked for. -/
theorem runnable_created_act {a : Action η κ} (ha : a.IsRunnable) {c : Chronicle σ η κ}
    (h : ∀ k ∈ c.created, Runnable k.plan.logic) :
    ∀ k ∈ (s.act a c).created, Runnable k.plan.logic := by
  cases a with
  | closeScope =>
    simp only [act]
    split <;> exact h
  | build context plan r =>
    intro k hk
    rcases List.mem_append.mp hk with hk | hk
    · exact h k hk
    · have hplan : k.plan = plan := by
        simp only [BridgeState.creation?] at hk
        split at hk
        · rw [List.mem_singleton.mp hk]
        · cases hk
      rw [hplan]
      exact ha
  | _ => exact h

theorem runnable_created_actAll {actions : List (Action η κ)}
    (hactions : ∀ a ∈ actions, a.IsRunnable) {c : Chronicle σ η κ}
    (h : ∀ k ∈ c.created, Runnable k.plan.logic) :
    ∀ k ∈ (s.actAll actions c).created, Runnable k.plan.logic := by
  induction actions generalizing c with
  | nil => exact h
  | cons a rest ih =>
    have hfirst := s.runnable_created_act (hactions a List.mem_cons_self) h
    exact ih (fun a' ha' => hactions a' (List.mem_cons_of_mem a ha')) hfirst

/-! ### Firing -/

omit [DecidableEq κ] in
theorem dispatchBy_of_unbound {b : BridgeState σ η κ} {id : WidgetId}
    (h : b.callbacks.find? id = none)
    (evaluate : Program → List (String × HostValue κ) → BridgeState σ η κ →
      Status × BridgeState σ η κ) (event : Value) :
    dispatchBy evaluate id event b = (none, b) := by
  simp only [dispatchBy, CallbackRegistry.fire, h, Option.map_none]

/-- A destroyed widget is never bound again. -/
theorem unbound_of_destroyed {c : Chronicle σ η κ} (h : c.Orderly) {id : WidgetId}
    (hid : id ∈ c.destroyed) (more : List (Action η κ)) :
    (s.actAll more c).state.callbacks.find? id = none := by
  have hbound := (s.orderly_actAll more h).bound id
  rw [if_pos ((s.destroyed_actAll more c).mem hid)] at hbound
  exact Option.map_eq_none_iff.mp hbound

/-- While a widget stays bound, its context and its logic stay the same. -/
theorem fixed_actAll {c : Chronicle σ η κ} (h : c.Orderly) {id : WidgetId} {b b' : CallbackBinding}
    (hb : c.state.callbacks.find? id = some b) (more : List (Action η κ))
    (hb' : (s.actAll more c).state.callbacks.find? id = some b') : b'.fixed = b.fixed := by
  obtain ⟨-, k, horigin, hfixed⟩ := h.origin_of_bound hb
  obtain ⟨-, k', horigin', hfixed'⟩ := (s.orderly_actAll more h).origin_of_bound hb'
  obtain ⟨rest, hrest⟩ := s.created_actAll more c
  rw [← hrest, origin?_append_of_some horigin] at horigin'
  cases horigin'
  exact Option.some.inj (hfixed'.symm.trans hfixed)

/-- The bindings of a bridge after any history.  A widget is bound exactly when the platform accepted
    its creation with logic and it was not destroyed.  Its binding is that of the first such creation
    and stays the same, its logic is not blank unless an action asked for that, and its widget is
    live.  A destroyed widget never fires again, and a failing destruction changes nothing.  Every run
    of uses adds to the history in this way, and asks for no blank logic. -/
theorem callback_lifecycle (platform : σ) (host : η) (counters : Counters)
    (actions : List (Action η κ)) :
    let c := s.actAll actions (.initial platform host counters)
    (∀ id, (c.state.callbacks.find? id).isSome ↔
      id ∉ c.destroyed ∧
        ∃ k program, origin? c.created id = some k ∧ k.plan.logic = some program) ∧
    (∀ id b, c.state.callbacks.find? id = some b →
      b.widget = id ∧
        ∃ k, origin? c.created id = some k ∧ b.context = k.context ∧ k.plan.logic = some b.logic) ∧
    ((∀ a ∈ actions, a.IsRunnable) →
      ∀ id b, c.state.callbacks.find? id = some b → b.logic.isBlank = false) ∧
    (∀ id b more b', c.state.callbacks.find? id = some b →
      (s.actAll more c).state.callbacks.find? id = some b' →
      b'.widget = b.widget ∧ b'.context = b.context ∧ b'.logic = b.logic) ∧
    (∀ id b, c.state.callbacks.find? id = some b →
      ∃ w, c.state.widgets.find? id = some w ∧ (w.state = .created ∨ w.state = .placed)) ∧
    (∀ id, (c.state.destroyWidget id).1 = .ok () → ∀ more evaluate event,
      let later := (s.actAll more (s.act (.destroy id) c)).state
      dispatchBy evaluate id event later = (none, later)) ∧
    (∀ id e, (c.state.destroyWidget id).1 = .error e →
      (c.state.destroyWidget id).2.callbacks = c.state.callbacks ∧
      (c.state.destroyWidget id).2.widgets = c.state.widgets ∧
      (c.state.destroyWidget id).2.handles = c.state.handles) ∧
    (∀ n running uses, s.Leads c.state (s.useAll n running uses c.state)) := by
  intro c
  have hc : c.Orderly := s.orderly_actAll actions (Chronicle.orderly_initial platform host counters)
  refine ⟨hc.isSome_find?_iff, fun id b => hc.creation_of_bound, ?_, ?_, ?_, ?_, ?_, ?_⟩
  · intro hactions id b hb
    obtain ⟨-, k, horigin, -, hlogic⟩ := hc.creation_of_bound hb
    have hnone : ∀ k ∈ (Chronicle.initial platform host counters : Chronicle σ η κ).created,
        Runnable k.plan.logic := fun _ hk => by cases hk
    exact s.runnable_created_actAll hactions hnone k (List.mem_of_find?_eq_some horigin) _ hlogic
  · intro id b more b' hb hb'
    simpa [CallbackBinding.fixed] using s.fixed_actAll hc hb more hb'
  · intro id b hb
    obtain ⟨w, hw, hlive⟩ := hc.live_of_bound hb
    exact ⟨w, hw, WidgetState.isLive_iff.mp hlive⟩
  · intro id hok more evaluate event later
    have hmem : id ∈ (s.act (.destroy id) c).destroyed := by
      simp only [act, hok]
      exact List.mem_cons_self
    exact dispatchBy_of_unbound (s.unbound_of_destroyed (s.orderly_act _ c hc) hmem more) _ _
  · intro id e herror
    rw [BridgeState.destroyWidget_eq_self herror]
    exact ⟨rfl, rfl, rfl⟩
  · exact fun n running uses => s.leads_useAll n running uses c.state

end Setting
end ScriptBridge
