/-
  ScriptBridge/Proofs/Bridge/Steady.lean
  ======================================
  **Between the actions of a bridge, its handle table is steady.**

  A build pins the context of the new widget, and a destruction unpins it.  Were
  a new widget bound already, the context of its old binding would be unpinned in
  between; but ids of widgets with a record are not given out again, and a widget
  without one is not bound.  So an action adopts, or retains, or releases, or is
  a destruction, and each of these keeps a table steady.

  `Passes` is what holds between the states at both ends of any use: the same
  scopes are open, and every handle was there before or was adopted since, in the
  innermost open scope or inside it.
-/
import ScriptBridge.Proofs.Bridge.Callbacks
import ScriptBridge.Proofs.Bridge.ScopeAccount
import ScriptBridge.Proofs.Handle.Steady

namespace ScriptBridge

variable {σ η κ : Type}

namespace BridgeState

variable {platform : Platform σ} {b b' b'' : BridgeState σ η κ}

/-- The handles lie in their scopes, and the widgets have the records and bindings of some history. -/
structure Steady (b : BridgeState σ η κ) : Prop where
  handles : b.handles.Steady b.counters.handle
  widgets : ∃ created destroyed, Lifecycle b.callbacks b.widgets created destroyed

namespace Steady

theorem initial (platform : σ) (host : η) (counters : Counters) :
    (BridgeState.initial platform host counters : BridgeState σ η κ).Steady :=
  ⟨HandleTable.Steady.empty _, [], [], .initial⟩

theorem openScope (hb : b.Steady) : b.openScope.2.Steady := ⟨hb.handles.openScope, hb.widgets⟩

theorem closeScope (hb : b.Steady) (token : ScopeToken) : (b.closeScope token).Steady :=
  ⟨hb.handles.closeScope token, hb.widgets⟩

theorem unbound_of_unborn (hb : b.Steady) {id : WidgetId} (hid : b.widgets.stateOf id = .unborn) :
    b.callbacks.find? id = none := by
  obtain ⟨created, destroyed, hlifecycle⟩ := hb.widgets
  cases hbinding : b.callbacks.find? id with
  | none => rfl
  | some binding =>
    obtain ⟨w, hw, hlive⟩ := hlifecycle.live_of_bound hbinding
    rw [WidgetTable.stateOf_of_find? hw] at hid
    rw [hid] at hlive
    cases hlive

end Steady

/-! ### Handles and the operations on widgets -/

theorem bindLogic_handles {context : Value} {names : NameTable} {id : WidgetId}
    {logic : Option Program} (hunbound : b.callbacks.find? id = none) :
    ∃ hs, (b.bindLogic context names id logic).handles = b.handles.retainAll hs := by
  cases logic with
  | none => exact ⟨[], rfl⟩
  | some program =>
    refine ⟨context.handles, (registerBinding_handles _).trans ?_⟩
    rw [hunbound]

theorem Steady.grows_build (hb : b.Steady) (context : Value) (plan : WidgetPlan) (r : Rendering) :
    b.handles.Grows b.counters.handle (b.build platform context plan r).2.2.handles
      (b.build platform context plan r).2.2.counters.handle := by
  have hbound : ∀ size, b.widgets.stateOf b.counters.widget = .unborn →
      ∃ hs, (b.afterNaming platform context plan r size).handles = b.handles.retainAll hs :=
    fun size hfresh => bindLogic_handles (hb.unbound_of_unborn hfresh)
  have hcounters : ∀ size, (b.afterNaming platform context plan r size).counters.handle =
      b.counters.handle := by
    intro size
    rw [afterNaming_counters]
    rfl
  rcases b.build_cases platform context plan r with
    ⟨e, heq⟩ | ⟨size, e, -, hfresh, -, heq⟩ | ⟨size, -, hfresh, -, heq⟩
  · rw [heq]
    exact .of_eq rfl rfl
  · obtain ⟨hs, hhandles⟩ := hbound size hfresh
    rw [heq]
    simp only [hhandles, hcounters]
    exact .retain hs (Nat.le_refl _)
  · obtain ⟨hs, hhandles⟩ := hbound size hfresh
    rw [heq]
    simp only [afterPlacement, hhandles, hcounters]
    exact .retain hs (Nat.le_refl _)

/-! ### Both ends of a use -/

/-- The later state is steady, and its handles are old ones or were adopted in or inside the innermost
    open scope. -/
structure Passes (b b' : BridgeState σ η κ) : Prop where
  steady : b'.Steady
  counter : b.counters.handle ≤ b'.counters.handle
  spans : HandleTable.Spans b.counters.handle b.handles b'.handles

namespace Passes

theorem refl (hb : b.Steady) : b.Passes b := ⟨hb, Nat.le_refl _, .refl hb.handles⟩

theorem trans (hfirst : b.Passes b') (hsecond : b'.Passes b'') : b.Passes b'' :=
  ⟨hsecond.steady, Nat.le_trans hfirst.counter hsecond.counter,
    hfirst.spans.trans hfirst.counter hsecond.spans⟩

theorem scope (hinner : b.openScope.2.Passes b') : b.Passes (b'.closeScope b.openScope.1) :=
  ⟨hinner.steady.closeScope _, hinner.counter, .scope hinner.steady.handles.sorted hinner.spans⟩

/-- Of the handles that were adopted since, closing the scope leaves those that are pinned. -/
theorem get?_closeScope (hinner : b.openScope.2.Passes b') {h : ObjectHandle}
    (hnew : b.counters.handle ≤ h.number) :
    (b'.closeScope b.openScope.1).handles.get? h =
      (b'.handles.get? h).bind fun e => if 0 < e.pins then some { e with closed := true } else none := by
  rw [closeScope, HandleTable.get?_closeScope hinner.steady.handles.sorted]
  cases he : b'.handles.get? h with
  | none => rfl
  | some e =>
    have hinside : b.handles.depth + 1 ≤ e.scope := hinner.spans.newer h e he hnew
    exact if_neg (Nat.not_lt.mpr hinside)

end Passes
end BridgeState

/-! ### Actions -/

namespace Setting

variable [DecidableEq κ] {s : Setting σ η κ} {b : BridgeState σ η κ}

theorem grows_after (hb : b.Steady) {a : Action η κ} (hscoping : a.isScoping = false)
    (hremoval : a.isRemoval = false) :
    b.handles.Grows b.counters.handle (s.after a b).handles (s.after a b).counters.handle := by
  cases a with
  | openScope => cases hscoping
  | closeScope => cases hscoping
  | release h => cases hremoval
  | destroy id => cases hremoval
  | adopt o => exact .adopt o
  | retain h => exact .retain [h] (Nat.le_refl _)
  | build context plan r => exact hb.grows_build context plan r
  | put target frame =>
    simp only [after, act]
    rcases b.put_cases s.platform target frame with ⟨e, heq⟩ | ⟨id, heq⟩
    · rw [heq]
      exact .of_eq rfl rfl
    · rw [heq]
      exact .of_eq (BridgeState.place_handles _ _) (BridgeState.Carries.place s.platform _ _ b).counter
  | setText target text =>
    obtain ⟨p, heq⟩ := b.setText_eq s.platform target text
    simp only [after, act, heq]
    exact .of_eq rfl rfl
  | elsewhere widgets handles => exact .retain [] (Nat.le_add_right _ _)
  | setHost h => exact .of_eq rfl rfl
  | read path => exact .of_eq rfl rfl
  | window width height => exact .of_eq rfl rfl
  | print line => exact .of_eq rfl rfl

/-- A destruction unpins the context of the widget, if the widget has one. -/
theorem handles_destroy (id : WidgetId) (b : BridgeState σ η κ) :
    (s.after (.destroy id) b).handles = b.handles ∨
    ∃ binding, (b.destroyWidget id).1 = .ok () ∧ b.callbacks.find? id = some binding ∧
      (s.after (.destroy id) b).handles = b.handles.unpinAll binding.context.handles := by
  simp only [after, act]
  rcases b.destroyWidget_cases id with ⟨e, heq⟩ | ⟨w, _, _, heq⟩
  · rw [heq]
    exact Or.inl rfl
  · rw [heq, BridgeState.afterDestruction]
    cases hbound : b.callbacks.find? id with
    | none => exact Or.inl rfl
    | some binding => exact Or.inr ⟨binding, rfl, rfl, rfl⟩

theorem passes_after (hb : b.Steady) {a : Action η κ} (hscoping : a.isScoping = false) :
    b.Passes (s.after a b) := by
  have hwidgets : ∃ created destroyed,
      Lifecycle (s.after a b).callbacks (s.after a b).widgets created destroyed := by
    obtain ⟨created, destroyed, hlifecycle⟩ := hb.widgets
    have hafter := s.orderly_act a ⟨b, [], [], [], created, destroyed⟩ hlifecycle
    rw [Chronicle.Orderly, state_act hscoping] at hafter
    exact ⟨_, _, hafter⟩
  by_cases hremoval : a.isRemoval = false
  · have hgrows := s.grows_after hb hscoping hremoval
    exact ⟨⟨hb.handles.grows hgrows, hwidgets⟩, hgrows.le, .grows hb.handles hgrows⟩
  · cases a with
    | release h =>
      exact ⟨⟨hb.handles.release h, hwidgets⟩, Nat.le_refl _,
        .of_descends hb.handles (.release _ h) rfl⟩
    | destroy id =>
      have hcarries : b.Carries (s.after (.destroy id) b) := .destroyWidget id b
      have hsteady : (s.after (.destroy id) b).handles.Steady b.counters.handle := by
        rcases s.handles_destroy id b with hsame | ⟨binding, -, -, hunpinned⟩
        · rw [hsame]
          exact hb.handles
        · rw [hunpinned]
          exact hb.handles.unpinAll _
      exact ⟨⟨hcarries.counter ▸ hsteady, hwidgets⟩, Nat.le_of_eq hcarries.counter.symm,
        .of_descends hb.handles hcarries.handles hcarries.depth⟩
    | _ => exact absurd rfl hremoval

theorem steady_act (a : Action η κ) (c : Chronicle σ η κ) (hc : c.state.Steady) :
    (s.act a c).state.Steady := by
  cases hscoping : a.isScoping with
  | false =>
    rw [state_act hscoping]
    exact (passes_after hc hscoping).steady
  | true =>
    cases a with
    | openScope => exact hc.openScope
    | closeScope =>
      simp only [act]
      split
      · exact hc
      · exact hc.closeScope _
    | _ => cases hscoping

theorem steady_actAll (actions : List (Action η κ)) (platform : σ) (host : η) (counters : Counters) :
    (s.actAll actions (.initial platform host counters)).state.Steady :=
  s.actAll_invariant (I := fun c => c.state.Steady) steady_act actions _
    (BridgeState.Steady.initial platform host counters)

/-! ### Uses -/

theorem respects_passes (s : Setting σ η κ) : s.Respects fun b b' => b.Steady → b.Passes b' where
  refl _ := .refl
  trans hfirst hsecond hb := (hfirst hb).trans (hsecond (hfirst hb).steady)
  act _ _ hscoping _ _ hb := passes_after hb hscoping
  scope hinner hb := .scope (hinner hb.openScope)

theorem removesWithin_passes (n : Nat) (running : List (ObjectRef κ)) (task : Task η κ)
    (b : BridgeState σ η κ) :
    s.RemovesWithin (fun b b' => b.Steady → b.Passes b') n running task b :=
  removesWithin_of_after (fun _ hscoping _ _ hb => passes_after hb hscoping) n running task b

end Setting
end ScriptBridge
