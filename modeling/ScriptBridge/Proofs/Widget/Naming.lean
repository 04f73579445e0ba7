/-
  ScriptBridge/Proofs/Widget/Naming.lean
  ======================================
  **Which widget a name stands for.**

  A look-up by name takes the record of the greatest id that carries the name.
  All it needs of the records is their outline, the ids and the names in order.
  Placing and destroying a widget write over its record and keep the name, so the
  outline stays; a record under an id above all others is put at its end.  As
  long as ids are handed out in increasing order, the outline is thus the list of
  the creations, and a name stands for the last widget created under it.
-/
import ScriptBridge.Proofs.Widget.Lookup

namespace ScriptBridge
namespace WidgetTable

/-- The ids of the records with the names, in the order of the records. -/
def outline (t : WidgetTable) : List (WidgetId × Option String) :=
  t.records.map fun e => (e.1, e.2.name)

/-- The records are in the order of their ids, and these are the ids with the names. -/
structure Lists (t : WidgetTable) (entries : List (WidgetId × Option String)) : Prop where
  ordered : Assoc.Sorted t.records
  outline : t.outline = entries

namespace Lists

variable {t : WidgetTable} {entries : List (WidgetId × Option String)} {id : WidgetId}

theorem empty : WidgetTable.empty.Lists [] := ⟨Assoc.sorted_nil, rfl⟩

/-- A record is listed under its name. -/
theorem mem_of_find? (h : t.Lists entries) {w : WidgetRecord} (hw : t.find? id = some w) :
    (id, w.name) ∈ entries := by
  rw [← h.outline]
  exact List.mem_map.mpr ⟨(id, w), Assoc.mem_of_find? hw, rfl⟩

/-- A record that is written over by one of the same name. -/
theorem set_over (h : t.Lists entries) {w w' : WidgetRecord} (hw : t.find? id = some w)
    (hname : w'.name = w.name) : (t.set id w').Lists entries := by
  constructor
  · exact h.ordered.insert id w'
  · rw [← h.outline]
    exact h.ordered.map_insert_of_find? hw hname

/-- A record under an id above all others. -/
theorem set_above (h : t.Lists entries) (habove : ∀ e ∈ entries, e.1 < id) (w : WidgetRecord) :
    (t.set id w).Lists (entries ++ [(id, w.name)]) := by
  constructor
  · exact h.ordered.insert id w
  · have hrecords : ∀ e ∈ t.records, e.1 < id := by
      intro e he
      refine habove (e.1, e.2.name) ?_
      rw [← h.outline]
      exact List.mem_map.mpr ⟨e, he, rfl⟩
    simp only [WidgetTable.outline, set, Assoc.insert_of_above hrecords, List.map_append]
    rw [← h.outline]
    rfl

/-- An id above all others has no record. -/
theorem find?_of_above (h : t.Lists entries) (habove : ∀ e ∈ entries, e.1 < id) :
    t.find? id = none := by
  cases hw : t.find? id with
  | none => rfl
  | some w => exact absurd (habove _ (h.mem_of_find? hw)) Int64.lt_irrefl

/-- A name stands for the last entry that carries it. -/
theorem id_findNamed? (h : t.Lists entries) (name : String) :
    (t.findNamed? name).map Prod.fst =
      (entries.reverse.find? fun e => e.2 == some name).map Prod.fst := by
  rw [← h.outline]
  simp only [findNamed?, WidgetTable.outline, ← List.map_reverse, List.find?_map, Option.map_map]
  rfl

end Lists
end WidgetTable
end ScriptBridge
