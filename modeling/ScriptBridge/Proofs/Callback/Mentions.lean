/-
  ScriptBridge/Proofs/Callback/Mentions.lean
  ==========================================
  **The handles that the stored bindings mention.**

  A handle is mentioned as often as it occurs in the contexts of all bindings
  together.  Storing or removing a binding exchanges one context and leaves the
  others, so the count changes by that context alone; renaming the widgets of a
  render changes no context.
-/
import ScriptBridge.Callback.Registry
import ScriptBridge.Proofs.Data.Sorted

namespace ScriptBridge.CallbackRegistry

/-- Every handle in a stored context, as often as it occurs there. -/
def contextHandles (r : CallbackRegistry) : List ObjectHandle :=
  r.bindings.flatMap fun e => e.2.context.handles

/-- How often a handle occurs in the stored contexts. -/
def mentions (r : CallbackRegistry) (h : ObjectHandle) : Nat := r.contextHandles.count h

/-- The widgets of the bindings increase. -/
def Sorted (r : CallbackRegistry) : Prop := Assoc.Sorted r.bindings

variable {r : CallbackRegistry}

theorem sorted_empty : empty.Sorted := Assoc.sorted_nil

/-! ### Look-ups -/

theorem find?_register (r : CallbackRegistry) (b : CallbackBinding) (id : WidgetId) :
    (r.register b).find? id = if b.widget = id then some b else r.find? id := by
  split
  · next h =>
    subst h
    exact Assoc.find?_insert_self ..
  · next h => exact Assoc.find?_insert_of_ne h ..

theorem find?_remove (r : CallbackRegistry) (id id' : WidgetId) :
    (r.remove id).find? id' = if id = id' then none else r.find? id' := by
  split
  · next h =>
    subst h
    exact Assoc.find?_erase_self ..
  · next h => exact Assoc.find?_erase_of_ne h _

/-- The binding with other names. -/
def renamed (ids : List WidgetId) (names : NameTable) (id : WidgetId) (b : CallbackBinding) :
    CallbackBinding := if ids.contains id then { b with names := names } else b

theorem shareNames_eq (r : CallbackRegistry) (ids : List WidgetId) (names : NameTable) :
    r.shareNames ids names = ⟨r.bindings.map fun e => (e.1, renamed ids names e.1 e.2)⟩ := by
  unfold shareNames renamed
  congr 2
  funext e
  split <;> rfl

theorem renamed_of_mem {ids : List WidgetId} {id : WidgetId} (h : id ∈ ids) (names : NameTable) :
    renamed ids names id = fun b => { b with names := names } := by
  funext b
  exact if_pos (List.contains_iff_mem.mpr h)

theorem renamed_of_not_mem {ids : List WidgetId} {id : WidgetId} (h : id ∉ ids) (names : NameTable) :
    renamed ids names id = fun b => b := by
  funext b
  exact if_neg fun hid => h (List.contains_iff_mem.mp hid)

theorem find?_shareNames (r : CallbackRegistry) (ids : List WidgetId) (names : NameTable)
    (id : WidgetId) :
    (r.shareNames ids names).find? id = (r.find? id).map (renamed ids names id) := by
  rw [shareNames_eq]
  exact Assoc.find?_map_snd (renamed ids names) id r.bindings

@[simp] theorem renamed_widget (ids : List WidgetId) (names : NameTable) (id : WidgetId)
    (b : CallbackBinding) : (renamed ids names id b).widget = b.widget := by
  unfold renamed
  split <;> rfl

@[simp] theorem renamed_context (ids : List WidgetId) (names : NameTable) (id : WidgetId)
    (b : CallbackBinding) : (renamed ids names id b).context = b.context := by
  unfold renamed
  split <;> rfl

@[simp] theorem renamed_logic (ids : List WidgetId) (names : NameTable) (id : WidgetId)
    (b : CallbackBinding) : (renamed ids names id b).logic = b.logic := by
  unfold renamed
  split <;> rfl

/-! ### Order -/

namespace Sorted

theorem register (hr : r.Sorted) (b : CallbackBinding) : (r.register b).Sorted :=
  Assoc.Sorted.insert hr _ _

theorem remove (hr : r.Sorted) (id : WidgetId) : (r.remove id).Sorted := Assoc.Sorted.erase hr id

theorem shareNames (hr : r.Sorted) (ids : List WidgetId) (names : NameTable) :
    (r.shareNames ids names).Sorted := by
  rw [shareNames_eq]
  exact Assoc.Sorted.map hr (f := fun e => (e.1, renamed ids names e.1 e.2)) fun _ => rfl

end Sorted

/-! ### Counting -/

/-- A context that is stored adds its handles to those of the other bindings. -/
theorem mentions_register (hr : r.Sorted) (b : CallbackBinding) (h : ObjectHandle) :
    (r.register b).mentions h = b.context.handles.count h + (r.remove b.widget).mentions h := by
  have hperm := (hr.perm_insert b.widget b).flatMap_right fun e => e.2.context.handles
  exact (hperm.count_eq h).trans (by rw [List.flatMap_cons, List.count_append]; rfl)

/-- A binding that goes takes the handles of its context with it. -/
theorem mentions_of_find? (hr : r.Sorted) {id : WidgetId} {b : CallbackBinding}
    (hb : r.find? id = some b) (h : ObjectHandle) :
    r.mentions h = b.context.handles.count h + (r.remove id).mentions h := by
  have hperm := (hr.perm_erase hb).flatMap_right fun e => e.2.context.handles
  exact (hperm.count_eq h).trans (by rw [List.flatMap_cons, List.count_append]; rfl)

theorem remove_of_find?_none {id : WidgetId} (hb : r.find? id = none) : r.remove id = r := by
  unfold remove
  rw [Assoc.erase_eq_self (Assoc.find?_eq_none_iff.mp hb)]

@[simp] theorem contextHandles_shareNames (r : CallbackRegistry) (ids : List WidgetId)
    (names : NameTable) : (r.shareNames ids names).contextHandles = r.contextHandles := by
  rw [shareNames_eq]
  simp only [contextHandles, List.flatMap_map, renamed_context]

@[simp] theorem mentions_shareNames (r : CallbackRegistry) (ids : List WidgetId) (names : NameTable)
    (h : ObjectHandle) : (r.shareNames ids names).mentions h = r.mentions h := by
  simp only [mentions, contextHandles_shareNames]

end ScriptBridge.CallbackRegistry
