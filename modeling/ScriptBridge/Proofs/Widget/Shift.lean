/-
  ScriptBridge/Proofs/Widget/Shift.lean
  =====================================
  **Two runs whose widget ids start apart.**

  The counters of a process may stand anywhere when a run begins.  A `Shift` has
  the starts of two runs: every widget id of the run from the first corresponds
  to the id that lies as far from the second.  `Tables` says that two tables have
  the same records under corresponding ids.

  A name stands for the greatest id that carries it, so the names correspond
  only while both runs count upwards from where they started: no recorded id is
  below the start (`WidgetTable.From`).
-/
import ScriptBridge.Callback.Names
import ScriptBridge.Proofs.Data.Sorted
import ScriptBridge.Proofs.Widget.Lookup

namespace ScriptBridge

/-- Where two runs start. -/
structure Shift where
  /-- The first widget id of the first run. -/
  first : WidgetId
  second : WidgetId
  /-- How many handles more had been given out when the second run began. -/
  ahead : Nat

namespace Shift

variable (s : Shift)

/-! ### Ids -/

/-- The id of the second run that corresponds to one of the first. -/
def move (id : WidgetId) : WidgetId := id + (s.second - s.first)

@[simp] theorem move_inj {id id' : WidgetId} : s.move id = s.move id' ↔ id = id' := Int64.add_left_inj _

@[simp] theorem move_first : s.move s.first = s.second := by
  rw [move, Int64.add_comm, Int64.sub_add_cancel]

theorem move_succ (id : WidgetId) : s.move (id + 1) = s.move id + 1 := by
  rw [move, move, Int64.add_assoc, Int64.add_comm 1, ← Int64.add_assoc]

theorem exists_move (id : WidgetId) : ∃ id', s.move id' = id :=
  ⟨id - (s.second - s.first), Int64.sub_add_cancel ..⟩

theorem move_eq_self (h : s.second = s.first) (id : WidgetId) : s.move id = id := by
  rw [move, h, Int64.sub_self, Int64.add_zero]

/-- An id is as far from the start in both runs, unless one of them has wrapped. -/
theorem toInt_move {id : WidgetId} (hfirst : s.first ≤ id) (hsecond : s.second ≤ s.move id) :
    (s.move id).toInt - s.second.toInt = id.toInt - s.first.toInt := by
  rw [Int64.le_iff_toInt_le] at hfirst hsecond
  have hmove : (s.move id).toInt =
      (id.toInt + (s.second.toInt - s.first.toInt)).bmod (2 ^ 64) := by
    rw [move, Int64.toInt_add, Int64.toInt_sub, Int.add_bmod_bmod]
  have hleast := s.second.le_toInt
  have hgreatest := (s.move id).toInt_lt
  have hid := id.toInt_lt
  have hleast' := s.first.le_toInt
  rw [Int.bmod_def] at hmove
  split at hmove <;> omega

/-- While both runs count upwards, the order of ids is the same. -/
theorem move_lt_move {id id' : WidgetId} (hid : s.first ≤ id) (hid' : s.first ≤ id')
    (hmove : s.second ≤ s.move id) (hmove' : s.second ≤ s.move id') :
    s.move id < s.move id' ↔ id < id' := by
  rw [Int64.lt_iff_toInt_lt, Int64.lt_iff_toInt_lt]
  have h := s.toInt_move hid hmove
  have h' := s.toInt_move hid' hmove'
  omega

/-! ### Handles and names -/

def moveHandle (h : WidgetHandle) : WidgetHandle := { h with id := s.move h.id }

def moveNames (t : NameTable) : NameTable := ⟨t.entries.map fun e => (e.1, s.moveHandle e.2)⟩

@[simp] theorem moveNames_empty : s.moveNames .empty = .empty := rfl

theorem moveNames_insert (t : NameTable) (name : String) (h : WidgetHandle) :
    s.moveNames (t.insert name h) = (s.moveNames t).insert name (s.moveHandle h) := by
  simp only [moveNames, NameTable.insert, Assoc.map_insert]

theorem moveNames_add (t : NameTable) (name : Option String) (h : WidgetHandle) :
    s.moveNames (t.add name h) = (s.moveNames t).add name (s.moveHandle h) := by
  cases name with
  | none => rfl
  | some name => exact s.moveNames_insert t name h

end Shift

/-! ### Records -/

/-- No widget has an id below the start: the counter has not wrapped around. -/
def WidgetTable.From (t : WidgetTable) (start : WidgetId) : Prop :=
  ∀ id, t.stateOf id ≠ .unborn → start ≤ id

theorem WidgetTable.from_of_records {t : WidgetTable} {start : WidgetId}
    (h : ∀ e ∈ t.records, start ≤ e.1) : t.From start := by
  intro id hborn
  unfold WidgetTable.stateOf at hborn
  cases hfound : t.find? id with
  | none =>
    rw [hfound] at hborn
    exact absurd rfl hborn
  | some r => exact h (id, r) (Assoc.mem_of_find? hfound)

/-- The tables have the same records under corresponding ids. -/
structure Shift.Tables (s : Shift) (t t' : WidgetTable) : Prop where
  sorted : Assoc.Sorted t.records
  sorted' : Assoc.Sorted t'.records
  born : ∀ id r, t.find? id = some r → r.state ≠ .unborn
  find?_move : ∀ id, t'.find? (s.move id) = t.find? id

namespace Shift.Tables

variable {s : Shift} {t t' : WidgetTable}

theorem empty : s.Tables .empty .empty where
  sorted := Assoc.sorted_nil
  sorted' := Assoc.sorted_nil
  born _ _ h := by cases h
  find?_move _ := rfl

theorem stateOf_move (h : s.Tables t t') (id : WidgetId) : t'.stateOf (s.move id) = t.stateOf id := by
  rw [WidgetTable.stateOf, WidgetTable.stateOf, h.find?_move]

theorem set (h : s.Tables t t') (id : WidgetId) {r : WidgetRecord} (hr : r.state ≠ .unborn) :
    s.Tables (t.set id r) (t'.set (s.move id) r) where
  sorted := h.sorted.insert id r
  sorted' := h.sorted'.insert (s.move id) r
  born id' r' hr' := by
    rw [WidgetTable.find?_set] at hr'
    split at hr'
    · cases hr'
      exact hr
    · exact h.born id' r' hr'
  find?_move id' := by simp only [WidgetTable.find?_set, move_inj, h.find?_move]

/-- While both runs count upwards, the one table is the other with the ids moved. -/
theorem records_eq (h : s.Tables t t') (hfrom : t.From s.first) (hfrom' : t'.From s.second) :
    t'.records = t.records.map fun e => (s.move e.1, e.2) := by
  have hfirst : ∀ e ∈ t.records, s.first ≤ e.1 ∧ s.second ≤ s.move e.1 := by
    intro e he
    have hborn : t.stateOf e.1 ≠ .unborn := by
      have hfound : t.find? e.1 = some e.2 := h.sorted.find?_eq_some_iff.mpr he
      rw [WidgetTable.stateOf_of_find? hfound]
      exact h.born e.1 e.2 hfound
    exact ⟨hfrom e.1 hborn, hfrom' (s.move e.1) (by rwa [h.stateOf_move])⟩
  apply h.sorted'.ext
  · apply List.pairwise_map.mpr
    refine h.sorted.imp_of_mem fun {e e'} he he' hlt => ?_
    exact (s.move_lt_move (hfirst e he).1 (hfirst e' he').1 (hfirst e he).2 (hfirst e' he').2).mpr hlt
  · intro id
    obtain ⟨id, rfl⟩ := s.exists_move id
    rw [Assoc.find?_map_key s.move fun _ _ => s.move_inj.mp]
    exact h.find?_move id

/-- While both runs count upwards, a name stands for corresponding widgets. -/
theorem findNamed?_eq (h : s.Tables t t') (hfrom : t.From s.first) (hfrom' : t'.From s.second)
    (name : String) :
    t'.findNamed? name = (t.findNamed? name).map fun e => (s.move e.1, e.2) := by
  rw [WidgetTable.findNamed?, WidgetTable.findNamed?, h.records_eq hfrom hfrom', ← List.map_reverse,
    List.find?_map]
  rfl

end Shift.Tables
end ScriptBridge
