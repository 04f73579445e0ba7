/-
  ScriptBridge/Proofs/Class/Seen.lean
  ===================================
  **Classes that were seen stay seen, with the tables that they are described with.**

  A registry only grows, and by descriptions alone.  So the table of a class is
  among those of the registry from the moment that an object of it was seen.
-/
import ScriptBridge.Class.Registry
import ScriptBridge.Proofs.Data.Sorted

namespace ScriptBridge

variable {κ : Type}

namespace ClassFamily

variable [DecidableEq κ] {family : ClassFamily κ} {remaining pending : List κ}

theorem discover_of_find?_none
    (h : pending.find? (fun k => decide (k ∈ remaining)) = none) :
    family.discover remaining pending = [] := by
  rw [discover]
  split
  · rfl
  · next hsome => rw [h] at hsome; cases hsome

theorem discover_of_find? {k : κ}
    (h : pending.find? (fun k => decide (k ∈ remaining)) = some k) :
    family.discover remaining pending =
      k :: family.discover (without k remaining) ((family.describe k).returns ++ pending) := by
  rw [discover]
  split
  · next hnone => rw [h] at hnone; cases hnone
  · next k' hsome =>
    rw [h] at hsome
    cases hsome
    rfl

end ClassFamily

namespace ClassRegistry

/-- Every class is there with the table of its description. -/
def Describes (r : ClassRegistry κ) (family : ClassFamily κ) : Prop :=
  ∀ e ∈ r.tables, e.2 = (family.describe e.1).table

variable {family : ClassFamily κ} {r : ClassRegistry κ}

theorem describes_empty (family : ClassFamily κ) : (empty : ClassRegistry κ).Describes family := by
  intro e he
  cases he

variable [DecidableEq κ]

theorem Describes.see (h : r.Describes family) (k : κ) : (r.see family k).Describes family := by
  intro e he
  rcases List.mem_append.mp he with hold | hnew
  · exact h e hold
  · obtain ⟨c, -, rfl⟩ := List.mem_map.mp hnew
    rfl

theorem Describes.tableFor (h : r.Describes family) (k : κ) :
    (r.tableFor family k).2.Describes family := by
  unfold ClassRegistry.tableFor
  split
  · exact h
  · exact h.see k

/-- A class that remains to be described is described first when it is asked for. -/
theorem mem_discover {remaining : List κ} {k : κ} (hk : k ∈ remaining) :
    k ∈ family.discover remaining [k] := by
  have hfirst : [k].find? (fun k => decide (k ∈ remaining)) = some k := by simp [hk]
  rw [ClassFamily.discover_of_find? hfirst]
  exact List.mem_cons_self

theorem mem_all_tableFor (h : r.Describes family) (k : κ) :
    (family.describe k).table ∈ (r.tableFor family k).2.all := by
  unfold ClassRegistry.tableFor
  cases hk : r.find? k with
  | some t =>
    have hmem := Assoc.mem_of_find? hk
    exact h _ hmem ▸ List.mem_map_of_mem hmem
  | none =>
    have hremaining : k ∈ family.all.filter fun c => (r.find? c).isNone := by
      simp [family.mem_all k, hk]
    have hfound : k ∈ family.discover (family.all.filter fun c => (r.find? c).isNone) [k] :=
      mem_discover hremaining
    have hnew := List.mem_map_of_mem (f := fun c => (c, (family.describe c).table)) hfound
    exact List.mem_map_of_mem (f := Prod.snd) (List.mem_append_right r.tables hnew)

theorem all_subset_tableFor (r : ClassRegistry κ) (family : ClassFamily κ) (k : κ) :
    r.all ⊆ (r.tableFor family k).2.all := by
  unfold ClassRegistry.tableFor
  split
  · exact List.Subset.refl _
  · exact List.map_subset _ (List.subset_append_left _ _)

end ClassRegistry
end ScriptBridge
