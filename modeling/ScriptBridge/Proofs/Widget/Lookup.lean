/-
  ScriptBridge/Proofs/Widget/Lookup.lean
  ======================================
  **When the operations on widget records succeed, and what they write.**

  A creation succeeds for an id without a record, and placing and destroying
  succeed for live widgets, and only then; each writes one record.
-/
import ScriptBridge.Proofs.Data.Sorted
import ScriptBridge.Widget.Table

namespace ScriptBridge

theorem WidgetState.isLive_iff {s : WidgetState} : s.isLive = true ↔ s = .created ∨ s = .placed := by
  cases s <;> simp [isLive]

namespace WidgetTable

variable {t : WidgetTable}

@[simp] theorem find?_empty (id : WidgetId) : empty.find? id = none := rfl

theorem find?_set (t : WidgetTable) (id id' : WidgetId) (r : WidgetRecord) :
    (t.set id r).find? id' = if id = id' then some r else t.find? id' := by
  split
  · next h =>
    subst h
    exact Assoc.find?_insert_self ..
  · next h => exact Assoc.find?_insert_of_ne h ..

/-- Writing over a record gives no further id a record. -/
theorem isSome_find?_set {id : WidgetId} {r : WidgetRecord} (hr : t.find? id = some r)
    (r' : WidgetRecord) (id' : WidgetId) :
    ((t.set id r').find? id').isSome = (t.find? id').isSome := by
  rw [find?_set]
  split
  · next hid => rw [← hid, hr]; rfl
  · rfl

/-- A record that is written over keeps the kinds of all records. -/
theorem exists_kind_set {id : WidgetId} {w w' : WidgetRecord}
    (hw : t.find? id = some w) (hkind : w'.kind = w.kind) (id' : WidgetId) (kind : WidgetKind) :
    (∃ v, (t.set id w').find? id' = some v ∧ v.kind = kind) ↔
      ∃ v, t.find? id' = some v ∧ v.kind = kind := by
  rw [find?_set]
  by_cases hid : id = id'
  · subst hid
    simp [hw, hkind]
  · simp [hid]

/-- The id has a record of a widget that exists on the platform. -/
def Live (t : WidgetTable) (id : WidgetId) : Prop := ∃ r, t.find? id = some r ∧ r.state.isLive = true

/-! ### Creating -/

theorem stateOf_of_find?_none {id : WidgetId} (h : t.find? id = none) : t.stateOf id = .unborn := by
  simp [stateOf, h]

theorem stateOf_of_find? {id : WidgetId} {r : WidgetRecord} (h : t.find? id = some r) :
    t.stateOf id = r.state := by
  simp [stateOf, h]

theorem create_of_unborn {id : WidgetId} (h : t.stateOf id = .unborn) (kind : WidgetKind)
    (frame : Frame) (name : Option String) :
    t.create id kind frame name = .ok (t.set id ⟨kind, .created, frame, name⟩) := by
  simp [create, h, WidgetState.advance, WidgetState.allows]

theorem create_of_born {id : WidgetId} (h : t.stateOf id ≠ .unborn) (kind : WidgetKind)
    (frame : Frame) (name : Option String) : ∃ e, t.create id kind frame name = .error e := by
  refine ⟨⟨id, t.stateOf id, .created⟩, ?_⟩
  cases hs : t.stateOf id <;> simp_all [create, WidgetState.advance, WidgetState.allows]

/-! ### Placing -/

theorem place_of_live {id : WidgetId} {r : WidgetRecord} (hr : t.find? id = some r)
    (hlive : r.state.isLive = true) (frame : Frame) :
    t.place id frame = .ok (t.set id { r with state := .placed, frame := frame }) := by
  obtain ⟨kind, state, old, name⟩ := r
  cases state <;> simp_all [place, WidgetState.advance, WidgetState.allows, WidgetState.isLive]

/-! ### Destroying -/

theorem destroy_of_live {id : WidgetId} {r : WidgetRecord} (hr : t.find? id = some r)
    (hlive : r.state.isLive = true) :
    t.destroy id = .ok (t.set id { r with state := .destroyed }) := by
  obtain ⟨kind, state, frame, name⟩ := r
  cases state <;> simp_all [destroy, WidgetState.advance, WidgetState.allows, WidgetState.isLive]

theorem destroy_of_not_live {id : WidgetId} (h : ¬ t.Live id) : ∃ e, t.destroy id = .error e := by
  cases hr : t.find? id with
  | none => exact ⟨.unknownWidget id, by simp [destroy, hr]⟩
  | some r =>
    have hdead : r.state.isLive = false := Bool.eq_false_iff.mpr fun hl => h ⟨r, hr, hl⟩
    obtain ⟨kind, state, frame, name⟩ := r
    cases state <;>
      simp_all [destroy, WidgetState.advance, WidgetState.allows, WidgetState.isLive]

/-- A destruction that succeeds found a live widget and marks its record. -/
theorem destroy_eq_ok {id : WidgetId} {t' : WidgetTable} (h : t.destroy id = .ok t') :
    ∃ r, t.find? id = some r ∧ r.state.isLive = true ∧
      t' = t.set id { r with state := .destroyed } := by
  by_cases hlive : t.Live id
  · obtain ⟨r, hr, hl⟩ := hlive
    rw [destroy_of_live hr hl] at h
    exact ⟨r, hr, hl, (Except.ok.inj h).symm⟩
  · obtain ⟨e, he⟩ := destroy_of_not_live hlive
    rw [he] at h
    cases h

end WidgetTable
end ScriptBridge
