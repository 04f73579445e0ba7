/-
  ScriptBridge/Proofs/Handle/Shift.lean
  =====================================
  **Two runs whose handles start apart.**

  Handles are numbered through a whole process as well.  All handles of the
  second run are a fixed number ahead of those of the first, so that a handle
  table with its handles moved (`moveTable`) behaves as the table itself does.
-/
import ScriptBridge.Handle.Table
import ScriptBridge.Proofs.Widget.Shift

namespace ScriptBridge
namespace Shift

variable (s : Shift) {α : Type}

/-! ### Handles -/

/-- The handle of the second run that corresponds to one of the first. -/
def moveObject (h : ObjectHandle) : ObjectHandle := ⟨h.number + s.ahead⟩

theorem moveObject_inj (h h' : ObjectHandle) (heq : s.moveObject h = s.moveObject h') : h = h' := by
  cases h
  cases h'
  simpa [moveObject] using heq

theorem moveObject_lt (h h' : ObjectHandle) : s.moveObject h < s.moveObject h' ↔ h < h' :=
  Nat.add_lt_add_iff_right

/-! ### Tables -/

def moveTable (t : HandleTable α) : HandleTable α :=
  { t with entries := t.entries.map fun e => (s.moveObject e.1, e.2) }

variable (t : HandleTable α) (h : ObjectHandle)

theorem get?_moveTable : (s.moveTable t).get? (s.moveObject h) = t.get? h :=
  Assoc.find?_map_key s.moveObject s.moveObject_inj h t.entries

theorem find?_moveTable : (s.moveTable t).find? (s.moveObject h) = t.find? h := by
  rw [HandleTable.find?, HandleTable.find?, s.get?_moveTable]

theorem openScope_moveTable :
    (s.moveTable t).openScope = (t.openScope.1, s.moveTable t.openScope.2) := rfl

theorem closeScope_moveTable (token : ScopeToken) :
    ((s.moveTable t).closeScope token).2 = s.moveTable (t.closeScope token).2 := by
  simp only [HandleTable.closeScope, moveTable, List.map_map, List.filter_map]
  rfl

theorem adopt_moveTable (o : α) :
    (s.moveTable t).adopt (s.moveObject h) o = s.moveTable (t.adopt h o) :=
  congrArg (HandleTable.mk t.depth)
    (Assoc.insert_map_key s.moveObject s.moveObject_inj s.moveObject_lt h _ t.entries)

theorem retain_moveTable :
    (s.moveTable t).retain (s.moveObject h) = ((t.retain h).1, s.moveTable (t.retain h).2) := by
  unfold HandleTable.retain
  rw [s.get?_moveTable]
  exact congrArg (fun l => (_, HandleTable.mk t.depth l))
    (Assoc.modify_map_key s.moveObject s.moveObject_inj h _ t.entries)

theorem unpin_moveTable : (s.moveTable t).unpin (s.moveObject h) = s.moveTable (t.unpin h) := by
  unfold HandleTable.unpin
  rw [s.get?_moveTable]
  cases t.get? h with
  | none => rfl
  | some e =>
    dsimp only
    split
    · exact congrArg (HandleTable.mk t.depth)
        (Assoc.erase_map_key s.moveObject s.moveObject_inj h t.entries)
    · exact congrArg (HandleTable.mk t.depth)
        (Assoc.modify_map_key s.moveObject s.moveObject_inj h _ t.entries)

theorem retainAll_moveTable (hs : List ObjectHandle) :
    (s.moveTable t).retainAll (hs.map s.moveObject) = s.moveTable (t.retainAll hs) := by
  induction hs generalizing t with
  | nil => rfl
  | cons h rest ih =>
    rw [List.map_cons, HandleTable.retainAll, List.foldl_cons, s.retain_moveTable]
    exact ih _

theorem unpinAll_moveTable (hs : List ObjectHandle) :
    (s.moveTable t).unpinAll (hs.map s.moveObject) = s.moveTable (t.unpinAll hs) := by
  induction hs generalizing t with
  | nil => rfl
  | cons h rest ih =>
    rw [List.map_cons, HandleTable.unpinAll, List.foldl_cons, s.unpin_moveTable]
    exact ih _

end Shift
end ScriptBridge
