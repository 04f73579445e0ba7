/-
  ScriptBridge/Proofs/Bridge/PinAccount.lean
  ==========================================
  **Every pin of a bridge is accounted for.**

  A handle is pinned by explicit retains and by the contexts of stored bindings,
  and by nothing else.  So the number of its pins can be told from the history:
  it is the number of retains that succeeded plus the number of times that the
  handle occurs in stored contexts.  The handle table never sees contexts; what
  ties it to them is that a context pins and unpins along the same walk.

  `PinAccount` is this equation with the order of the tables.  Every operation
  keeps it, and a handle that a stored context still mentions after an operation
  is still there.
-/
import ScriptBridge.Proofs.Bridge.Build
import ScriptBridge.Proofs.Callback.Mentions
import ScriptBridge.Proofs.Handle.Account

namespace ScriptBridge

variable {σ η κ : Type}

/-- The pins of a state are those of some retains and of its bindings. -/
structure PinAccount (retained : List ObjectHandle) (b : BridgeState σ η κ) : Prop where
  registry : b.callbacks.Sorted
  handles : b.handles.Accounted (fun h => retained.count h + b.callbacks.mentions h)
    b.counters.handle

namespace PinAccount

variable {retained : List ObjectHandle} {b : BridgeState σ η κ}

theorem initial (platform : σ) (host : η) (counters : Counters) :
    PinAccount [] (.initial platform host counters : BridgeState σ η κ) :=
  ⟨CallbackRegistry.sorted_empty, HandleTable.Accounted.empty _⟩

theorem registerBinding (h : PinAccount retained b) {binding : CallbackBinding}
    (hminted : ∀ k ∈ binding.context.handles, k.number < b.counters.handle) :
    PinAccount retained (b.registerBinding binding) := by
  have hpinned := h.handles.retainAll hminted
  refine ⟨?_, ?_⟩
  · rw [BridgeState.registerBinding_callbacks]
    exact h.registry.register binding
  · rw [BridgeState.registerBinding_callbacks, BridgeState.registerBinding_counters,
      BridgeState.registerBinding_handles]
    cases hprevious : b.callbacks.find? binding.widget with
    | none =>
      refine hpinned.congr (fun k => ?_) (Nat.le_refl _)
      rw [CallbackRegistry.mentions_register h.registry,
        CallbackRegistry.remove_of_find?_none hprevious]
      omega
    | some previous =>
      refine (hpinned.unpinAll _).congr (fun k => ?_) (Nat.le_refl _)
      rw [CallbackRegistry.mentions_register h.registry,
        CallbackRegistry.mentions_of_find? h.registry hprevious]
      omega

theorem bindLogic (h : PinAccount retained b) {context : Value}
    (hminted : ∀ k ∈ context.handles, k.number < b.counters.handle) (names : NameTable)
    (id : WidgetId) (logic : Option Program) :
    PinAccount retained (b.bindLogic context names id logic) := by
  cases logic with
  | none => exact h
  | some program => exact h.registerBinding hminted

theorem create (h : PinAccount retained b) (platform : Platform σ) {context : Value}
    (hminted : ∀ k ∈ context.handles, k.number < b.counters.handle) (names : NameTable)
    (plan : WidgetPlan) : PinAccount retained (b.create platform context names plan).2 := by
  rcases b.create_cases platform context names plan with
    ⟨e, _, heq⟩ | ⟨size, e, _, _, heq⟩ | ⟨size, _, _, heq⟩
  · rw [heq]
    exact ⟨h.registry, h.handles⟩
  · rw [heq]
    exact ⟨h.registry, h.handles⟩
  · rw [heq]
    have hrecorded : PinAccount retained (b.afterRecord platform plan size) :=
      ⟨h.registry, h.handles⟩
    exact hrecorded.bindLogic hminted names b.counters.widget plan.logic

theorem shareNames (h : PinAccount retained b) (r : Rendering) :
    PinAccount retained (b.shareNames r) where
  registry := h.registry.shareNames r.bound r.names
  handles := h.handles.congr (fun k => by simp [BridgeState.shareNames]) (Nat.le_refl _)

theorem place (h : PinAccount retained b) (platform : Platform σ) (id : WidgetId) (frame : Frame) :
    PinAccount retained (b.place platform id frame).2 := by
  constructor
  · rw [BridgeState.place_callbacks]
    exact h.registry
  · rw [BridgeState.place_callbacks, BridgeState.place_handles, BridgeState.place_counters]
    exact h.handles

theorem build (h : PinAccount retained b) (platform : Platform σ) {context : Value}
    (hminted : ∀ k ∈ context.handles, k.number < b.counters.handle) (plan : WidgetPlan)
    (r : Rendering) : PinAccount retained (b.build platform context plan r).2.2 :=
  BridgeState.build_invariant (h.create platform hminted r.names plan)
    (fun r _ h => h.shareNames r) fun id frame _ h => h.place platform id frame

theorem destroyWidget (h : PinAccount retained b) (id : WidgetId) :
    PinAccount retained (b.destroyWidget id).2 := by
  rcases b.destroyWidget_cases id with ⟨e, heq⟩ | ⟨w, _, _, heq⟩
  · rwa [heq]
  · rw [heq, BridgeState.afterDestruction]
    refine ⟨h.registry.remove id, ?_⟩
    cases hbound : b.callbacks.find? id with
    | none =>
      refine h.handles.congr (fun k => ?_) (Nat.le_refl _)
      simp only [CallbackRegistry.remove_of_find?_none hbound]
    | some binding =>
      refine (h.handles.unpinAll _).congr (fun k => ?_) (Nat.le_refl _)
      simp only
      rw [CallbackRegistry.mentions_of_find? h.registry hbound]
      omega

theorem retain (h : PinAccount retained b) (k : ObjectHandle) :
    PinAccount (if (b.retain k).1 then k :: retained else retained) (b.retain k).2 where
  registry := h.registry
  handles := by
    refine (h.handles.retain k).congr (fun k' => ?_) (Nat.le_refl _)
    have hknown : (b.retain k).1 = (b.handles.retain k).1 := rfl
    have hcallbacks : (b.retain k).2.callbacks = b.callbacks := rfl
    rw [hknown, hcallbacks]
    by_cases hk : (b.handles.retain k).1 = true
    · by_cases hkk : k' = k
      · subst hkk
        simp [hk]
        omega
      · simp [hk, hkk, Ne.symm hkk]
    · simp [hk]

theorem adopt [DecidableEq κ] (h : PinAccount retained b) (family : ClassFamily (ClassKey κ))
    (o : ObjectRef κ) : PinAccount retained (b.adopt family o).2 :=
  ⟨h.registry, h.handles.adopt o⟩

/-! ### What stays -/

end PinAccount
end ScriptBridge
