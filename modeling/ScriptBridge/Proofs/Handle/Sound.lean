/-
  ScriptBridge/Proofs/Handle/Sound.lean
  =====================================
  **What every operation keeps of a handle table.**

  Handles are minted in order by a counter that other tables use too, and an
  entry outlives its scope only while it is pinned.  Accounts of pins and of
  scopes both build on this.
-/
import ScriptBridge.Proofs.Handle.Lookup

namespace ScriptBridge.HandleTable

variable {α : Type} {t : HandleTable α} {next next' : Nat}

/-- The entries are in order and below the next handle, and those whose scope has ended are pinned. -/
structure Sound (t : HandleTable α) (next : Nat) : Prop where
  sorted : t.Sorted
  minted : ∀ h e, t.get? h = some e → h.number < next
  pinned : ∀ h e, t.get? h = some e → e.closed = true → 0 < e.pins

namespace Sound

theorem empty (next : Nat) : (HandleTable.empty : HandleTable α).Sound next where
  sorted := sorted_empty
  minted _ _ he := by cases he
  pinned _ _ he := by cases he

theorem mono (ht : t.Sound next) (hnext : next ≤ next') : t.Sound next' where
  sorted := ht.sorted
  minted h e he := Nat.lt_of_lt_of_le (ht.minted h e he) hnext
  pinned := ht.pinned

theorem openScope (ht : t.Sound next) : t.openScope.2.Sound next :=
  ⟨ht.sorted, ht.minted, ht.pinned⟩

theorem adopt (ht : t.Sound next) (o : α) : (t.adopt ⟨next⟩ o).Sound (next + 1) where
  sorted := ht.sorted.adopt _ _
  minted h e he := by
    rcases get?_adopt_eq_some he with ⟨rfl, -⟩ | he
    · exact Nat.lt_succ_self next
    · exact Nat.lt_succ_of_lt (ht.minted h e he)
  pinned h e he hclosed := by
    rcases get?_adopt_eq_some he with ⟨-, rfl⟩ | he
    · cases hclosed
    · exact ht.pinned h e he hclosed

theorem release (ht : t.Sound next) (k : ObjectHandle) : (t.release k).2.Sound next where
  sorted := ht.sorted.release k
  minted h e he := ht.minted h e (get?_release_eq_some he)
  pinned h e he := ht.pinned h e (get?_release_eq_some he)

theorem retainAll (ht : t.Sound next) (hs : List ObjectHandle) : (t.retainAll hs).Sound next where
  sorted := ht.sorted.retainAll hs
  minted h e he := by
    obtain ⟨e₀, he₀, -⟩ := get?_retainAll_eq_some he
    exact ht.minted h e₀ he₀
  pinned h e he hclosed := by
    obtain ⟨e₀, he₀, rfl⟩ := get?_retainAll_eq_some he
    exact Nat.lt_of_lt_of_le (ht.pinned h e₀ he₀ hclosed) (Nat.le_add_right _ _)

theorem unpinAll (ht : t.Sound next) (hs : List ObjectHandle) : (t.unpinAll hs).Sound next where
  sorted := ht.sorted.unpinAll hs
  minted h e he := by
    obtain ⟨e₀, he₀, -⟩ := get?_unpinAll_eq_some he
    exact ht.minted h e₀ he₀
  pinned h e he hclosed := by
    obtain ⟨e₀, he₀, rfl, hleft⟩ := get?_unpinAll_eq_some he
    exact hleft hclosed (ht.pinned h e₀ he₀ hclosed)

theorem closeScope (ht : t.Sound next) (token : ScopeToken) :
    (t.closeScope token).2.Sound next where
  sorted := ht.sorted.closeScope token
  minted h e he := by
    obtain ⟨e₀, he₀, -⟩ := get?_closeScope_eq_some ht.sorted he
    exact ht.minted h e₀ he₀
  pinned h e he hclosed := by
    obtain ⟨e₀, he₀, ⟨-, rfl⟩ | ⟨-, hpins, rfl⟩⟩ := get?_closeScope_eq_some ht.sorted he
    · exact ht.pinned h e he₀ hclosed
    · exact hpins

end Sound
end ScriptBridge.HandleTable
