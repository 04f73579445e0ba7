/-
  ScriptBridge/Proofs/Bridge/ScopeAccount.lean
  ============================================
  **In which scope each adopted handle is.**

  A chronicle notes the handles that were adopted in each open scope and those
  whose scope has ended.  The handle table only knows a depth for each entry, and
  whether the entry is closed.  `ScopeAccount` says that the two agree: open
  scopes nest, an entry has the depth of the scope that it was adopted in, and an
  entry of an ended scope is closed.  Operations that move no entry into another
  scope keep this.
-/
import ScriptBridge.Proofs.Bridge.Build
import ScriptBridge.Proofs.Bridge.Chronicle
import ScriptBridge.Proofs.Handle.Lookup

namespace ScriptBridge

/-- The tokens of the open scopes count down from the depth of the table. -/
def OpenScope.Nested : Nat → List OpenScope → Prop
  | depth, [] => depth = 0
  | depth, scope :: rest => ∃ outer, depth = outer + 1 ∧ scope.token.depth = depth ∧ Nested outer rest

/-- Every adopted handle is in its scope, and closed once the scope has ended. -/
structure ScopeAccount {α : Type} (t : HandleTable α) (next : Nat) (scopes : List OpenScope)
    (ended : List ObjectHandle) : Prop where
  nested : OpenScope.Nested t.depth scopes
  minted : ∀ scope ∈ scopes, ∀ h ∈ scope.adopted, h.number < next
  adopted : ∀ scope ∈ scopes, ∀ h ∈ scope.adopted, ∀ e, t.get? h = some e →
    e.scope = scope.token.depth
  gone : ∀ h ∈ ended, h.number < next
  closed : ∀ h ∈ ended, ∀ e, t.get? h = some e → e.closed = true

namespace ScopeAccount

variable {α : Type} {t t' : HandleTable α} {next : Nat} {scopes : List OpenScope}
  {ended : List ObjectHandle}

theorem initial (next : Nat) : ScopeAccount (.empty : HandleTable α) next [] [] where
  nested := rfl
  minted _ h := absurd h List.not_mem_nil
  adopted _ h := absurd h List.not_mem_nil
  gone _ h := absurd h List.not_mem_nil
  closed _ h := absurd h List.not_mem_nil

theorem openScope (h : ScopeAccount t next scopes ended) :
    ScopeAccount t.openScope.2 next (⟨t.openScope.1, []⟩ :: scopes) ended where
  nested := ⟨t.depth, rfl, rfl, h.nested⟩
  minted scope hscope k hk := by
    rcases List.mem_cons.mp hscope with rfl | hscope
    · exact absurd hk List.not_mem_nil
    · exact h.minted scope hscope k hk
  adopted scope hscope k hk := by
    rcases List.mem_cons.mp hscope with rfl | hscope
    · exact absurd hk List.not_mem_nil
    · exact h.adopted scope hscope k hk
  gone := h.gone
  closed := h.closed

theorem closeScope {scope : OpenScope} {rest : List OpenScope}
    (h : ScopeAccount t next (scope :: rest) ended) (ht : t.Sorted) :
    ScopeAccount (t.closeScope scope.token).2 next rest (scope.adopted ++ ended) := by
  obtain ⟨outer, hdepth, htoken, hrest⟩ := h.nested
  have hdescends : t.Descends (t.closeScope scope.token).2 := by
    intro k e' he'
    obtain ⟨e, he, hscope, hclosed, _⟩ := HandleTable.Descends.closeScope ht scope.token he'
    exact ⟨e, he, hscope, hclosed⟩
  refine ⟨?_, ?_, ?_, ?_, ?_⟩
  · -- The innermost scope is the one that is closed, so the depth is that of the scope around it.
    have houter : (t.closeScope scope.token).2.depth = outer := by
      simp only [HandleTable.closeScope]
      omega
    rwa [houter]
  · exact fun inner hinner => h.minted inner (List.mem_cons_of_mem _ hinner)
  · intro inner hinner k hk e' he'
    obtain ⟨e, he, hsame, _⟩ := hdescends k e' he'
    exact hsame.trans (h.adopted inner (List.mem_cons_of_mem _ hinner) k hk e he)
  · intro k hk
    rcases List.mem_append.mp hk with hk | hk
    · exact h.minted scope List.mem_cons_self k hk
    · exact h.gone k hk
  · intro k hk e' he'
    obtain ⟨e, he, _, hstays, hends⟩ := HandleTable.Descends.closeScope ht scope.token he'
    rcases List.mem_append.mp hk with hk | hk
    · exact hends (Nat.le_of_eq (h.adopted scope List.mem_cons_self k hk e he).symm)
    · exact hstays (h.closed k hk e he)

/-- A new handle is in the innermost open scope. -/
theorem adopt (h : ScopeAccount t next scopes ended) (o : α) :
    ScopeAccount (t.adopt ⟨next⟩ o) (next + 1) (OpenScope.note ⟨next⟩ scopes) ended := by
  -- No scope has a handle that is not minted yet, so the entries they know stay.
  have hother : ∀ k : ObjectHandle, k.number < next → (t.adopt ⟨next⟩ o).get? k = t.get? k := by
    intro k hk
    refine HandleTable.get?_adopt_of_ne (fun heq => ?_) t o
    subst heq
    exact Nat.lt_irrefl next hk
  have hgone : ∀ k ∈ ended, k.number < next + 1 := fun k hk => Nat.lt_succ_of_lt (h.gone k hk)
  have hclosed : ∀ k ∈ ended, ∀ e, (t.adopt ⟨next⟩ o).get? k = some e → e.closed = true := by
    intro k hk e he
    rw [hother k (h.gone k hk)] at he
    exact h.closed k hk e he
  cases scopes with
  | nil =>
    exact ⟨h.nested, fun _ hscope => absurd hscope List.not_mem_nil,
      fun _ hscope => absurd hscope List.not_mem_nil, hgone, hclosed⟩
  | cons first rest =>
    refine ⟨h.nested, ?_, ?_, hgone, hclosed⟩
    · intro scope hscope k hk
      rcases List.mem_cons.mp hscope with rfl | hscope
      · rcases List.mem_cons.mp hk with rfl | hk
        · exact Nat.lt_succ_self next
        · exact Nat.lt_succ_of_lt (h.minted first List.mem_cons_self k hk)
      · exact Nat.lt_succ_of_lt (h.minted scope (List.mem_cons_of_mem _ hscope) k hk)
    · intro scope hscope k hk e he
      rcases List.mem_cons.mp hscope with rfl | hscope
      · rcases List.mem_cons.mp hk with rfl | hk
        · obtain ⟨outer, _, htoken, _⟩ := h.nested
          rw [HandleTable.get?_adopt_self] at he
          cases he
          exact htoken.symm
        · rw [hother k (h.minted first List.mem_cons_self k hk)] at he
          exact h.adopted first List.mem_cons_self k hk e he
      · have hmem := List.mem_cons_of_mem first hscope
        rw [hother k (h.minted scope hmem k hk)] at he
        exact h.adopted scope hmem k hk e he

end ScopeAccount

/-! ### Operations that move no entry -/

/-- The handles of the later state are some of the earlier one's, in the same scopes. -/
structure BridgeState.Carries {σ η κ : Type} (b b' : BridgeState σ η κ) : Prop where
  handles : b.handles.Descends b'.handles
  depth : b'.handles.depth = b.handles.depth
  counter : b'.counters.handle = b.counters.handle

namespace BridgeState.Carries

variable {σ η κ : Type} {b b' b'' : BridgeState σ η κ}

theorem refl (b : BridgeState σ η κ) : b.Carries b := ⟨.refl _, rfl, rfl⟩

theorem trans (h : b.Carries b') (h' : b'.Carries b'') : b.Carries b'' :=
  ⟨h.handles.trans h'.handles, h'.depth.trans h.depth, h'.counter.trans h.counter⟩

/-- Only the handles and the counter of handles matter. -/
theorem of_eq (hhandles : b'.handles = b.handles) (hcounter : b'.counters.handle = b.counters.handle) :
    b.Carries b' :=
  ⟨hhandles ▸ .refl _, congrArg HandleTable.depth hhandles, hcounter⟩

theorem registerBinding (b : BridgeState σ η κ) (binding : CallbackBinding) :
    b.Carries (b.registerBinding binding) := by
  refine ⟨?_, ?_, congrArg Counters.handle (BridgeState.registerBinding_counters binding)⟩
  · rw [BridgeState.registerBinding_handles]
    cases b.callbacks.find? binding.widget with
    | none => exact .retainAll _ _
    | some previous => exact (HandleTable.Descends.retainAll _ _).trans (.unpinAll _ _)
  · rw [BridgeState.registerBinding_handles]
    cases b.callbacks.find? binding.widget with
    | none => exact HandleTable.depth_retainAll _ _
    | some previous => simp

theorem bindLogic (context : Value) (names : NameTable) (id : WidgetId) (logic : Option Program)
    (b : BridgeState σ η κ) : b.Carries (b.bindLogic context names id logic) := by
  cases logic with
  | none => exact .refl b
  | some program => exact .registerBinding b _

theorem create (platform : Platform σ) (context : Value) (names : NameTable) (plan : WidgetPlan)
    (b : BridgeState σ η κ) : b.Carries (b.create platform context names plan).2 := by
  rcases b.create_cases platform context names plan with
    ⟨e, _, heq⟩ | ⟨size, e, _, _, heq⟩ | ⟨size, _, _, heq⟩
  · rw [heq]
    exact .of_eq rfl rfl
  · rw [heq]
    exact .of_eq rfl rfl
  · rw [heq]
    have hrecorded : b.Carries (b.afterRecord platform plan size) := .of_eq rfl rfl
    exact hrecorded.trans (.bindLogic context names b.counters.widget plan.logic _)

theorem place (platform : Platform σ) (id : WidgetId) (frame : Frame) (b : BridgeState σ η κ) :
    b.Carries (b.place platform id frame).2 :=
  .of_eq (BridgeState.place_handles id frame)
    (congrArg Counters.handle (BridgeState.place_counters id frame))

theorem build (platform : Platform σ) (context : Value) (plan : WidgetPlan) (r : Rendering)
    (b : BridgeState σ η κ) : b.Carries (b.build platform context plan r).2.2 :=
  BridgeState.build_invariant (I := fun b' => b.Carries b')
    (.create platform context r.names plan b) (fun _ _ h => h.trans (of_eq rfl rfl))
    fun id frame b' h => h.trans (.place platform id frame b')

theorem destroyWidget (id : WidgetId) (b : BridgeState σ η κ) :
    b.Carries (b.destroyWidget id).2 := by
  rcases b.destroyWidget_cases id with ⟨e, heq⟩ | ⟨w, _, _, heq⟩
  · rw [heq]
    exact .refl b
  · rw [heq, BridgeState.afterDestruction]
    cases b.callbacks.find? id with
    | none => exact .of_eq rfl rfl
    | some binding => exact ⟨.unpinAll _ _, HandleTable.depth_unpinAll _ _, rfl⟩

end BridgeState.Carries
end ScriptBridge
