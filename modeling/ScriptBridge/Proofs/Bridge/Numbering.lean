/-
  ScriptBridge/Proofs/Bridge/Numbering.lean
  =========================================
  **How many widget ids a history uses up.**

  Only a build records a new widget, under the next id, and it uses up one id
  whether or not the platform accepts.  Other bridges of the process may use up
  any number.  While the history stays below 2 ^ 64 ids in all, the next id has
  no record.
-/
import ScriptBridge.Proofs.Bridge.Build
import ScriptBridge.Proofs.Bridge.Chronicle
import ScriptBridge.Proofs.Widget.Fresh

namespace ScriptBridge

variable {σ η κ : Type}

/-- The later state has used up so many ids more, and has new records under the next id at most. -/
structure BridgeState.Allocates (b b' : BridgeState σ η κ) (n : Nat) : Prop where
  counter : b'.counters.widget = b.counters.widget + Int64.ofNat n
  recorded : ∀ id, (b'.widgets.find? id).isSome →
    (b.widgets.find? id).isSome ∨ (id = b.counters.widget ∧ 0 < n)

namespace BridgeState.Allocates

variable {b b' b'' : BridgeState σ η κ} {n : Nat}

theorem of_eq (hcounter : b'.counters.widget = b.counters.widget) (hwidgets : b'.widgets = b.widgets) :
    b.Allocates b' 0 where
  counter := hcounter.trans (Int64.add_zero _).symm
  recorded _ hid := Or.inl (hwidgets ▸ hid)

/-- Changes that allocate nothing may follow. -/
theorem trans (h : b.Allocates b' n) (h' : b'.Allocates b'' 0) : b.Allocates b'' n where
  counter := h'.counter.trans ((Int64.add_zero _).trans h.counter)
  recorded id hid := by
    rcases h'.recorded id hid with hold | ⟨_, hpos⟩
    · exact h.recorded id hold
    · exact absurd hpos (Nat.lt_irrefl 0)

/-- Writing a record that was there. -/
theorem of_set {id : WidgetId} {w w' : WidgetRecord} (hw : b.widgets.find? id = some w)
    (hcounter : b'.counters.widget = b.counters.widget) (hwidgets : b'.widgets = b.widgets.set id w') :
    b.Allocates b' 0 where
  counter := hcounter.trans (Int64.add_zero _).symm
  recorded id' hid' := by
    rw [hwidgets, WidgetTable.find?_set] at hid'
    split at hid'
    · next heq =>
      rw [← heq, hw]
      exact Or.inl rfl
    · exact Or.inl hid'

theorem create (platform : Platform σ) (context : Value) (names : NameTable) (plan : WidgetPlan)
    (b : BridgeState σ η κ) : b.Allocates (b.create platform context names plan).2 1 := by
  rcases b.create_cases platform context names plan with
    ⟨e, _, heq⟩ | ⟨size, e, _, _, heq⟩ | ⟨size, _, _, heq⟩
  · rw [heq]
    exact ⟨rfl, fun _ => Or.inl⟩
  · rw [heq]
    exact ⟨rfl, fun _ => Or.inl⟩
  · rw [heq]
    refine ⟨congrArg Counters.widget (bindLogic_counters ..), fun id hid => ?_⟩
    simp only [afterCreation, bindLogic_widgets, afterRecord, WidgetTable.find?_set] at hid
    split at hid
    · next heq => exact Or.inr ⟨heq.symm, Nat.one_pos⟩
    · exact Or.inl hid

theorem place (platform : Platform σ) (id : WidgetId) (frame : Frame) (b : BridgeState σ η κ) :
    b.Allocates (b.place platform id frame).2 0 := by
  rcases b.place_cases platform id frame with ⟨_, e, heq⟩ | ⟨e, _, _, heq⟩ | ⟨w, hw, _, _, heq⟩
  · rw [heq]
    exact .of_eq rfl rfl
  · rw [heq]
    exact .of_eq rfl rfl
  · rw [heq]
    exact .of_set hw rfl rfl

theorem build (platform : Platform σ) (context : Value) (plan : WidgetPlan) (r : Rendering)
    (b : BridgeState σ η κ) : b.Allocates (b.build platform context plan r).2.2 1 :=
  build_invariant (I := fun b' => b.Allocates b' 1) (.create platform context r.names plan b)
    (fun _ _ h => h.trans (of_eq rfl rfl)) fun id frame b' h => h.trans (.place platform id frame b')

theorem destroyWidget (id : WidgetId) (b : BridgeState σ η κ) :
    b.Allocates (b.destroyWidget id).2 0 := by
  rcases b.destroyWidget_cases id with ⟨e, heq⟩ | ⟨w, hw, _, heq⟩
  · rw [heq]
    exact .of_eq rfl rfl
  · rw [heq]
    exact .of_set hw rfl rfl

end BridgeState.Allocates

theorem Setting.allocates_act [DecidableEq κ] (s : Setting σ η κ) (a : Action η κ)
    (c : Chronicle σ η κ) : c.state.Allocates (s.act a c).state a.widgets := by
  cases a with
  | closeScope =>
    simp only [act]
    split
    · exact .of_eq rfl rfl
    · exact .of_eq rfl rfl
  | build context plan r => exact .build s.platform context plan r c.state
  | put target frame =>
    simp only [act]
    rcases c.state.put_cases s.platform target frame with ⟨e, heq⟩ | ⟨id, heq⟩
    · rw [heq]
      exact .of_eq rfl rfl
    · rw [heq]
      exact .place s.platform id frame c.state
  | setText target text =>
    obtain ⟨p, heq⟩ := c.state.setText_eq s.platform target text
    simp only [act, heq]
    exact .of_eq rfl rfl
  | destroy id => exact .destroyWidget id c.state
  | elsewhere widgets handles => exact ⟨rfl, fun _ => Or.inl⟩
  | _ => exact .of_eq rfl rfl

/-- An action takes the numbering as far as the ids that it uses up. -/
theorem Setting.numbered_act [DecidableEq κ] (s : Setting σ η κ) (a : Action η κ)
    {c : Chronicle σ η κ} {start : WidgetId} {used : Nat}
    (h : c.state.widgets.Numbered c.state.counters.widget start used) :
    (s.act a c).state.widgets.Numbered (s.act a c).state.counters.widget start
      (used + a.widgets) := by
  have hallocates := s.allocates_act a c
  rw [hallocates.counter]
  exact h.advance a.widgets hallocates.recorded

end ScriptBridge
