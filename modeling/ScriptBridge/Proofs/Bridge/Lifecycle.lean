/-
  ScriptBridge/Proofs/Bridge/Lifecycle.lean
  =========================================
  **Bindings and widget records tell the same story.**

  Two tables of a bridge know its widgets: the records, and the bindings of the
  widgets with logic.  Both are functions of the history.  A widget has a record
  when the platform accepted a creation under its id; the first such creation is
  its origin, since a later one under the same id is refused by the records.  It
  is bound to the logic of its origin until it is destroyed.

  `Lifecycle` states this of the tables and a history.  It is kept by creating,
  placing and destroying a widget and by sharing names, hence by every action.
-/
import ScriptBridge.Proofs.Bridge.Build
import ScriptBridge.Proofs.Bridge.Conduct
import ScriptBridge.Proofs.Callback.Mentions

namespace ScriptBridge

/-! ### Origins -/

/-- The first accepted creation under an id. -/
def origin? (created : List Creation) (id : WidgetId) : Option Creation :=
  created.find? fun k => k.id = id

theorem id_of_origin? {created : List Creation} {id : WidgetId} {k : Creation}
    (h : origin? created id = some k) : k.id = id := by
  simpa using List.find?_some h

theorem origin?_append (created more : List Creation) (id : WidgetId) :
    origin? (created ++ more) id = (origin? created id).or (origin? more id) := List.find?_append

theorem origin?_append_of_some {created : List Creation} {id : WidgetId} {k : Creation}
    (h : origin? created id = some k) (more : List Creation) :
    origin? (created ++ more) id = some k := by
  rw [origin?_append, h, Option.some_or]

theorem origin?_concat (created : List Creation) (k : Creation) (id : WidgetId) :
    origin? (created ++ [k]) id = (origin? created id).or (if k.id = id then some k else none) := by
  rw [origin?_append]
  congr 1
  by_cases hk : k.id = id <;> simp [origin?, hk]

/-- What of a binding never changes: its widget, its context and its logic. -/
def CallbackBinding.fixed (b : CallbackBinding) : WidgetId × Value × Program :=
  (b.widget, b.context, b.logic)

/-- What the binding of a widget must say for the creation it comes from. -/
def Creation.fixed (k : Creation) : Option (WidgetId × Value × Program) :=
  k.plan.logic.map fun program => (k.id, k.context, program)

/-! ### The invariant -/

/-- The bindings and the records of widgets agree with a history. -/
structure Lifecycle (r : CallbackRegistry) (t : WidgetTable) (created : List Creation)
    (destroyed : List WidgetId) : Prop where
  recorded : ∀ id, (t.find? id).isSome = (origin? created id).isSome
  born : ∀ id w, t.find? id = some w → w.state ≠ .unborn
  gone : ∀ id, id ∈ destroyed ↔ ∃ w, t.find? id = some w ∧ w.state = .destroyed
  bound : ∀ id, (r.find? id).map CallbackBinding.fixed =
    if id ∈ destroyed then none else (origin? created id).bind Creation.fixed

namespace Lifecycle

variable {r : CallbackRegistry} {t : WidgetTable} {created : List Creation}
  {destroyed : List WidgetId}

theorem initial : Lifecycle .empty .empty [] [] where
  recorded _ := rfl
  born _ _ h := by cases h
  gone _ := by simp
  bound _ := rfl

/-- A live widget is not among the destroyed ones. -/
theorem not_mem_of_live (h : Lifecycle r t created destroyed) {id : WidgetId} {w : WidgetRecord}
    (hw : t.find? id = some w) (hlive : w.state.isLive = true) : id ∉ destroyed := by
  rw [h.gone]
  rintro ⟨w', hw', hstate⟩
  rw [hw] at hw'
  cases hw'
  rw [hstate] at hlive
  cases hlive

theorem not_mem_of_unborn (h : Lifecycle r t created destroyed) {id : WidgetId}
    (hnone : t.find? id = none) : id ∉ destroyed := by
  rw [h.gone, hnone]
  rintro ⟨_, hw, _⟩
  cases hw

theorem origin?_of_unborn (h : Lifecycle r t created destroyed) {id : WidgetId}
    (hnone : t.find? id = none) : origin? created id = none := by
  rw [← Option.not_isSome_iff_eq_none, ← h.recorded, hnone]
  exact Bool.false_ne_true

/-- A record that is not unborn and not destroyed is that of a live widget. -/
theorem live_of_not_mem (h : Lifecycle r t created destroyed) {id : WidgetId} {w : WidgetRecord}
    (hw : t.find? id = some w) (hid : id ∉ destroyed) : w.state.isLive = true := by
  have hborn := h.born id w hw
  have hgone : w.state ≠ .destroyed := fun hstate => hid ((h.gone id).mpr ⟨w, hw, hstate⟩)
  cases hstate : w.state <;> simp_all [WidgetState.isLive]

/-- A bound widget has an origin with its logic, and is not destroyed. -/
theorem origin_of_bound (h : Lifecycle r t created destroyed) {id : WidgetId} {b : CallbackBinding}
    (hb : r.find? id = some b) :
    id ∉ destroyed ∧ ∃ k, origin? created id = some k ∧ k.fixed = some b.fixed := by
  have hbound := h.bound id
  rw [hb, Option.map_some] at hbound
  split at hbound
  · cases hbound
  · next hid => exact ⟨hid, Option.bind_eq_some_iff.mp hbound.symm⟩

/-- A binding is that of the creation it comes from. -/
theorem creation_of_bound (h : Lifecycle r t created destroyed) {id : WidgetId} {b : CallbackBinding}
    (hb : r.find? id = some b) :
    b.widget = id ∧
      ∃ k, origin? created id = some k ∧ b.context = k.context ∧ k.plan.logic = some b.logic := by
  obtain ⟨-, k, horigin, hfixed⟩ := h.origin_of_bound hb
  obtain ⟨program, hlogic, heq⟩ := Option.map_eq_some_iff.mp hfixed
  simp only [CallbackBinding.fixed, Prod.mk.injEq] at heq
  obtain ⟨hwidget, hcontext, hprogram⟩ := heq
  exact ⟨hwidget.symm.trans (id_of_origin? horigin), k, horigin, hcontext.symm, hprogram ▸ hlogic⟩

theorem isSome_find?_iff (h : Lifecycle r t created destroyed) (id : WidgetId) :
    (r.find? id).isSome ↔
      id ∉ destroyed ∧ ∃ k program, origin? created id = some k ∧ k.plan.logic = some program := by
  have hbound := congrArg Option.isSome (h.bound id)
  rw [Option.isSome_map] at hbound
  rw [hbound]
  split
  · next hid => simp [hid]
  · next hid =>
    simp only [hid, not_false_eq_true, true_and]
    cases horigin : origin? created id with
    | none => simp
    | some k => simp [Creation.fixed, Option.isSome_iff_exists]

/-- A bound widget is live. -/
theorem live_of_bound (h : Lifecycle r t created destroyed) {id : WidgetId} {b : CallbackBinding}
    (hb : r.find? id = some b) : t.Live id := by
  obtain ⟨hid, k, horigin, _⟩ := h.origin_of_bound hb
  have hrecord : (t.find? id).isSome := by rw [h.recorded, horigin]; rfl
  obtain ⟨w, hw⟩ := Option.isSome_iff_exists.mp hrecord
  exact ⟨w, hw, h.live_of_not_mem hw hid⟩

/-! ### Writing one record -/

theorem born_set (h : Lifecycle r t created destroyed) {id : WidgetId} {w' : WidgetRecord}
    (hw' : w'.state ≠ .unborn) (id' : WidgetId) (v : WidgetRecord)
    (hv : (t.set id w').find? id' = some v) : v.state ≠ .unborn := by
  rw [WidgetTable.find?_set] at hv
  split at hv
  · cases hv
    exact hw'
  · exact h.born id' v hv

theorem gone_set (h : Lifecycle r t created destroyed) {id : WidgetId} {w' : WidgetRecord}
    (hid : id ∉ destroyed) (hw' : w'.state ≠ .destroyed) (id' : WidgetId) :
    id' ∈ destroyed ↔ ∃ v, (t.set id w').find? id' = some v ∧ v.state = .destroyed := by
  rw [WidgetTable.find?_set]
  split
  · next heq =>
    subst heq
    refine iff_of_false hid ?_
    rintro ⟨v, hv, hstate⟩
    cases hv
    exact hw' hstate
  · exact h.gone id'

/-! ### Steps -/

theorem shareNames (h : Lifecycle r t created destroyed) (ids : List WidgetId) (names : NameTable) :
    Lifecycle (r.shareNames ids names) t created destroyed where
  recorded := h.recorded
  born := h.born
  gone := h.gone
  bound id := by
    rw [← h.bound id, CallbackRegistry.find?_shareNames, Option.map_map]
    congr 1
    funext b
    simp [CallbackBinding.fixed]

/-- Writing the record of a live widget, which stays live. -/
theorem set (h : Lifecycle r t created destroyed) {id : WidgetId} {w w' : WidgetRecord}
    (hw : t.find? id = some w) (hlive : w.state.isLive = true) (hlive' : w'.state.isLive = true) :
    Lifecycle r (t.set id w') created destroyed where
  recorded id' := (WidgetTable.isSome_find?_set hw w' id').trans (h.recorded id')
  born := h.born_set fun hstate => by
    rw [hstate] at hlive'
    cases hlive'
  gone := h.gone_set (h.not_mem_of_live hw hlive) fun hstate => by
    rw [hstate] at hlive'
    cases hlive'
  bound := h.bound

/-- A creation that the platform accepts under an id that has a record already. -/
theorem accept (h : Lifecycle r t created destroyed) {k : Creation}
    (hk : (t.find? k.id).isSome) : Lifecycle r t (created ++ [k]) destroyed := by
  have hsame : ∀ id, origin? (created ++ [k]) id = origin? created id := by
    intro id
    rw [origin?_concat]
    by_cases hid : k.id = id
    · subst hid
      rw [h.recorded] at hk
      obtain ⟨k', hk'⟩ := Option.isSome_iff_exists.mp hk
      rw [hk', Option.some_or]
    · rw [if_neg hid, Option.or_none]
  exact ⟨fun id => by rw [hsame, h.recorded], h.born, h.gone, fun id => by rw [hsame, h.bound]⟩

/-- A creation under an id without a record: it is recorded, and bound if it has logic. -/
theorem create (h : Lifecycle r t created destroyed) {k : Creation} (hnone : t.find? k.id = none)
    {w : WidgetRecord} (hw : w.state = .created) (names : NameTable) :
    Lifecycle
      (match k.plan.logic with
        | some program => r.register ⟨k.id, k.context, program, names⟩
        | none => r)
      (t.set k.id w) (created ++ [k]) destroyed := by
  have horigin := h.origin?_of_unborn hnone
  have hfresh := h.not_mem_of_unborn hnone
  have hborn : w.state ≠ .unborn := fun hstate => by cases hw.symm.trans hstate
  have hgone : w.state ≠ .destroyed := fun hstate => by cases hw.symm.trans hstate
  refine ⟨fun id => ?_, h.born_set hborn, h.gone_set hfresh hgone, fun id => ?_⟩
  · rw [WidgetTable.find?_set, origin?_concat]
    by_cases hid : k.id = id
    · subst hid
      simp [horigin]
    · rw [if_neg hid, if_neg hid, Option.or_none, h.recorded]
  · -- Only the new id gets an origin, and only its binding is stored.
    have hold := h.bound id
    rw [origin?_concat]
    by_cases hid : k.id = id
    · subst hid
      rw [if_neg hfresh, horigin] at hold ⊢
      cases hlogic : k.plan.logic with
      | none => simpa [Creation.fixed, hlogic] using hold
      | some program =>
        simp [Creation.fixed, CallbackBinding.fixed, hlogic, CallbackRegistry.find?_register]
    · rw [if_neg hid, Option.or_none, ← hold]
      cases k.plan.logic with
      | none => rfl
      | some program =>
        simp only [CallbackRegistry.find?_register]
        rw [if_neg hid]

/-- A destruction of a live widget takes its binding with it. -/
theorem destroy (h : Lifecycle r t created destroyed) {id : WidgetId} {w w' : WidgetRecord}
    (hw : t.find? id = some w) (hw' : w'.state = .destroyed) :
    Lifecycle (r.remove id) (t.set id w') created (id :: destroyed) where
  recorded id' := (WidgetTable.isSome_find?_set hw w' id').trans (h.recorded id')
  born := h.born_set fun hstate => by cases hw'.symm.trans hstate
  gone id' := by
    rw [WidgetTable.find?_set, List.mem_cons]
    split
    · next hid => exact iff_of_true (Or.inl hid.symm) ⟨w', rfl, hw'⟩
    · next hid =>
      rw [← h.gone id']
      exact or_iff_right (Ne.symm hid)
  bound id' := by
    rw [CallbackRegistry.find?_remove]
    by_cases hid : id = id'
    · subst hid
      simp
    · rw [if_neg hid, h.bound id']
      simp [Ne.symm hid]

end Lifecycle
end ScriptBridge
