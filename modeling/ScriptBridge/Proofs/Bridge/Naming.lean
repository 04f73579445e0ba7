/-
  ScriptBridge/Proofs/Bridge/Naming.lean
  ======================================
  **The records of a bridge are its creations, in order.**

  Widget ids are handed out by a counter that other bridges use as well.  While
  it does not overflow, every id is greater than all before it.  A creation that
  the platform accepts is then recorded under an id above all others, so that the
  records list the accepted creations with their names, whatever else happens to
  the bridge.  In particular a record never stands in the way of a creation.
-/
import ScriptBridge.Proofs.Bridge.Callbacks
import ScriptBridge.Proofs.Bridge.Numbering
import ScriptBridge.Proofs.Widget.Naming

namespace ScriptBridge

variable {σ η κ : Type}

/-- The id of a creation and the name that it gives. -/
def Creation.entry (k : Creation) : WidgetId × Option String := (k.id, k.plan.name)

/-- The last creation under a name. -/
def lastNamed? (created : List Creation) (name : String) : Option Creation :=
  created.reverse.find? fun k => k.plan.name == some name

/-! ### Operations on a state -/

section Operations

variable {platform : Platform σ} {b : BridgeState σ η κ}
  {entries : List (WidgetId × Option String)}

theorem lists_place (h : b.widgets.Lists entries) (id : WidgetId) (frame : Frame) :
    (b.place platform id frame).2.widgets.Lists entries := by
  rcases b.place_cases platform id frame with ⟨_, e, heq⟩ | ⟨e, _, _, heq⟩ | ⟨w, hw, _, _, heq⟩
  · rwa [heq]
  · rwa [heq]
  · rw [heq]
    exact h.set_over hw rfl

theorem lists_destroyWidget (h : b.widgets.Lists entries) (id : WidgetId) :
    (b.destroyWidget id).2.widgets.Lists entries := by
  rcases b.destroyWidget_cases id with ⟨e, heq⟩ | ⟨w, hw, _, heq⟩
  · rwa [heq]
  · rw [heq]
    exact h.set_over hw rfl

/-- Nothing but the platform refuses a creation under an id above all others. -/
theorem create_of_above (h : b.widgets.Lists entries) (habove : ∀ e ∈ entries, e.1 < b.counters.widget)
    (context : Value) (names : NameTable) (plan : WidgetPlan) :
    (b.create platform context names plan).1 =
      ((b.creationAnswer platform plan).mapError PlatformError.toBridge).map b.nextHandle := by
  rcases b.create_cases platform context names plan with
    ⟨e, hanswer, heq⟩ | ⟨size, e, _, hborn, _⟩ | ⟨size, hanswer, _, heq⟩
  · rw [heq, hanswer]
    rfl
  · exact absurd (WidgetTable.stateOf_of_find?_none (h.find?_of_above habove)) hborn
  · rw [heq, hanswer]
    rfl

/-- The platform is asked for the next id. -/
theorem id_of_creation? {context : Value} {plan : WidgetPlan} {k : Creation}
    (hk : b.creation? platform context plan = some k) : k.id = b.counters.widget := by
  cases hanswer : b.creationAnswer platform plan with
  | error e =>
    rw [creation?_of_error hanswer] at hk
    cases hk
  | ok size =>
    rw [creation?_of_ok hanswer] at hk
    cases hk
    rfl

theorem lists_build (h : b.widgets.Lists entries) (habove : ∀ e ∈ entries, e.1 < b.counters.widget)
    (context : Value) (plan : WidgetPlan) (r : Rendering) :
    (b.build platform context plan r).2.2.widgets.Lists
      (entries ++ ((b.creation? platform context plan).map Creation.entry).toList) := by
  refine BridgeState.build_invariant (I := fun b' => b'.widgets.Lists _) ?_ (fun _ _ h => h)
    fun id frame _ h => lists_place h id frame
  rcases b.create_cases platform context r.names plan with
    ⟨e, hanswer, heq⟩ | ⟨size, e, _, hborn, _⟩ | ⟨size, hanswer, _, heq⟩
  · rw [heq, creation?_of_error hanswer, Option.map_none, Option.toList_none, List.append_nil]
    exact h
  · exact absurd (WidgetTable.stateOf_of_find?_none (h.find?_of_above habove)) hborn
  · rw [heq, creation?_of_ok hanswer]
    simp only [BridgeState.afterCreation, BridgeState.bindLogic_widgets]
    exact h.set_above habove (plan.record size)

end Operations

/-! ### Histories -/

/-- The records list the accepted creations, whose ids come before the next one. -/
structure Chronicle.Named (c : Chronicle σ η κ) (next : WidgetId) : Prop where
  lists : c.state.widgets.Lists (c.created.map Creation.entry)
  below : ∀ k ∈ c.created, k.id < next

namespace Chronicle.Named

variable {c : Chronicle σ η κ} {next : WidgetId}

theorem initial (platform : σ) (host : η) (counters : Counters) (next : WidgetId) :
    (Chronicle.initial platform host counters : Chronicle σ η κ).Named next :=
  ⟨.empty, fun _ hk => absurd hk List.not_mem_nil⟩

/-- The next id may move on, whoever uses the ids. -/
theorem mono (h : c.Named next) {later : WidgetId} (hlater : next ≤ later) : c.Named later :=
  ⟨h.lists, fun k hk => Int64.lt_of_lt_of_le (h.below k hk) hlater⟩

theorem above (h : c.Named next) : ∀ e ∈ c.created.map Creation.entry, e.1 < next := by
  intro e he
  obtain ⟨k, hk, rfl⟩ := List.mem_map.mp he
  exact h.below k hk

/-- Every record has an id before the next one. -/
theorem lt_of_isSome (h : c.Named next) {id : WidgetId}
    (hid : (c.state.widgets.find? id).isSome) : id < next := by
  obtain ⟨w, hw⟩ := Option.isSome_iff_exists.mp hid
  exact h.above (id, w.name) (h.lists.mem_of_find? hw)

/-- A name stands for the last accepted creation under it. -/
theorem id_findWidget (h : c.Named next) (s : Setting σ η κ) [DecidableEq κ] (name : String) :
    ((Bridge.mk s c.state).findWidget name).map WidgetHandle.id =
      (lastNamed? c.created name).map Creation.id := by
  have hfound := h.lists.id_findNamed? name
  rw [← List.map_reverse, List.find?_map, Option.map_map] at hfound
  rw [Bridge.findWidget, Option.map_map]
  exact hfound

end Chronicle.Named

/-- An action keeps the records in step with the creations, as long as the counter can count on. -/
theorem Setting.named_act [DecidableEq κ] (s : Setting σ η κ) (a : Action η κ) {c : Chronicle σ η κ}
    (h : c.Named c.state.counters.widget)
    (hroom : c.state.counters.widget.toInt + a.widgets ≤ Int64.maxValue.toInt) :
    (s.act a c).Named (s.act a c).state.counters.widget := by
  have hcounter : c.state.counters.widget ≤ (s.act a c).state.counters.widget := by
    rw [(s.allocates_act a c).counter]
    exact le_add_ofNat hroom
  -- Only a build adds to the creations.
  have hsame : (s.act a c).created = c.created →
      (s.act a c).state.widgets.Lists (c.created.map Creation.entry) →
      (s.act a c).Named (s.act a c).state.counters.widget := by
    intro hcreated hlists
    refine ⟨by rwa [hcreated], fun k hk => ?_⟩
    rw [hcreated] at hk
    exact (h.mono hcounter).below k hk
  cases a with
  | closeScope =>
    simp only [act]
    split
    · exact h
    · exact ⟨h.lists, h.below⟩
  | build context plan r =>
    have hone : 0 < (Action.build context plan r : Action η κ).widgets := Nat.one_pos
    have hnext : c.state.counters.widget < (s.act (.build context plan r) c).state.counters.widget := by
      rw [(s.allocates_act (.build context plan r) c).counter]
      exact lt_add_ofNat hroom hone
    constructor
    · simp only [act, List.map_append, ← Option.toList_map]
      exact lists_build h.lists h.above context plan r
    · intro k hk
      rcases List.mem_append.mp hk with hk | hk
      · exact (h.mono hcounter).below k hk
      · rw [id_of_creation? (Option.mem_toList.mp hk)]
        exact hnext
  | put target frame =>
    refine hsame rfl ?_
    simp only [act]
    rcases c.state.put_cases s.platform target frame with ⟨e, heq⟩ | ⟨id, heq⟩
    · rw [heq]
      exact h.lists
    · rw [heq]
      exact lists_place h.lists id frame
  | setText target text =>
    refine hsame rfl ?_
    obtain ⟨p, heq⟩ := c.state.setText_eq s.platform target text
    simp only [act, heq]
    exact h.lists
  | destroy id => exact hsame rfl (lists_destroyWidget h.lists id)
  | _ => exact hsame rfl h.lists

end ScriptBridge
