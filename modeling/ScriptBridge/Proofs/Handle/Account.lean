/-
  ScriptBridge/Proofs/Handle/Account.lean
  =======================================
  **A handle table against an account of the pins owed to each handle.**

  The account is a number for each handle, kept apart from the table.  A table
  agrees with it when every entry has exactly the pins owed, no entry that lost
  its scope is without a pin, and nothing is owed to handles not minted yet.
  Pinning a list of handles adds its counts to the account, and unpinning a list
  takes them away again.  The agreement is what makes the second walk harmless:
  it never meets an entry with fewer pins than it takes, so an entry goes in the
  middle of a walk only when nothing at all is owed to it any more.
-/
import ScriptBridge.Proofs.Handle.Sound

namespace ScriptBridge.HandleTable

variable {α : Type} {t : HandleTable α} {owed : ObjectHandle → Nat} {next : Nat}

/-- The table agrees with an account of pins, where `next` is the first handle not minted yet. -/
structure Accounted (t : HandleTable α) (owed : ObjectHandle → Nat) (next : Nat) : Prop where
  sorted : t.Sorted
  minted : ∀ h e, t.get? h = some e → h.number < next
  fresh : ∀ h : ObjectHandle, next ≤ h.number → owed h = 0
  balance : ∀ h e, t.get? h = some e → e.pins = owed h
  pinned : ∀ h e, t.get? h = some e → e.closed = true → 0 < e.pins

namespace Accounted

theorem sound (h : t.Accounted owed next) : t.Sound next := ⟨h.sorted, h.minted, h.pinned⟩

/-- In a sound table only the balance is left to show. -/
theorem of_sound (ht : t.Sound next) (hfresh : ∀ h : ObjectHandle, next ≤ h.number → owed h = 0)
    (hbalance : ∀ h e, t.get? h = some e → e.pins = owed h) : t.Accounted owed next :=
  ⟨ht.sorted, ht.minted, hfresh, hbalance, ht.pinned⟩

theorem empty (next : Nat) : (HandleTable.empty : HandleTable α).Accounted (fun _ => 0) next := by
  refine .of_sound (.empty next) (fun _ _ => rfl) fun k e he => ?_
  cases he

/-- Only what is owed to the handles matters, and more handles may have been minted meanwhile. -/
theorem congr {owed' : ObjectHandle → Nat} {next' : Nat} (h : t.Accounted owed next)
    (howed : ∀ h, owed' h = owed h) (hnext : next ≤ next') : t.Accounted owed' next' := by
  refine .of_sound (h.sound.mono hnext) (fun k hk => ?_) fun k e he => ?_
  · rw [howed, h.fresh k (Nat.le_trans hnext hk)]
  · rw [howed, h.balance k e he]

theorem openScope (h : t.Accounted owed next) : t.openScope.2.Accounted owed next :=
  .of_sound h.sound.openScope h.fresh h.balance

theorem adopt (h : t.Accounted owed next) (o : α) : (t.adopt ⟨next⟩ o).Accounted owed (next + 1) := by
  refine .of_sound (h.sound.adopt o) (fun k hk => h.fresh k (Nat.le_of_succ_le hk)) fun k e he => ?_
  rcases get?_adopt_eq_some he with ⟨rfl, rfl⟩ | he
  · exact (h.fresh ⟨next⟩ (Nat.le_refl next)).symm
  · exact h.balance k e he

/-- The entries that a closed scope leaves have the pins that they had. -/
theorem closeScope (h : t.Accounted owed next) (token : ScopeToken) :
    (t.closeScope token).2.Accounted owed next := by
  refine .of_sound (h.sound.closeScope token) h.fresh fun k e he => ?_
  obtain ⟨e₀, he₀, ⟨-, rfl⟩ | ⟨-, -, rfl⟩⟩ := get?_closeScope_eq_some h.sorted he
  · exact h.balance k e he₀
  · exact h.balance k e₀ he₀

theorem release (h : t.Accounted owed next) (k : ObjectHandle) :
    (t.release k).2.Accounted owed next :=
  .of_sound (h.sound.release k) h.fresh fun k' e he => h.balance k' e (get?_release_eq_some he)

/-- Pinning a list of handles that were minted adds its counts to the account. -/
theorem retainAll (h : t.Accounted owed next) {hs : List ObjectHandle}
    (hminted : ∀ k ∈ hs, k.number < next) :
    (t.retainAll hs).Accounted (fun k => owed k + hs.count k) next := by
  refine .of_sound (h.sound.retainAll hs) (fun k hk => ?_) fun k e he => ?_
  · have hcount : hs.count k = 0 :=
      List.count_eq_zero.mpr fun hmem => absurd (hminted k hmem) (Nat.not_lt.mpr hk)
    simp only [h.fresh k hk, hcount]
  · obtain ⟨e₀, he₀, rfl⟩ := get?_retainAll_eq_some he
    simp only [HandleEntry.addPins, h.balance k e₀ he₀]

/-- Unpinning a list of handles takes its counts from the account. -/
theorem unpinAll (h : t.Accounted owed next) (hs : List ObjectHandle) :
    (t.unpinAll hs).Accounted (fun k => owed k - hs.count k) next := by
  refine .of_sound (h.sound.unpinAll hs) (fun k hk => ?_) fun k e he => ?_
  · simp only [h.fresh k hk, Nat.zero_sub]
  · obtain ⟨e₀, he₀, rfl, -⟩ := get?_unpinAll_eq_some he
    simp only [h.balance k e₀ he₀]

/-- One explicit retain of a handle of the table. -/
theorem retain (h : t.Accounted owed next) (k : ObjectHandle) :
    (t.retain k).2.Accounted (fun k' => owed k' + if (t.retain k).1 ∧ k' = k then 1 else 0) next := by
  have hknown : (t.retain k).1 = (t.get? k).isSome := rfl
  cases hk : t.get? k with
  | none =>
    -- The retain fails, and neither the table nor the account changes.
    have hsame : ∀ k', (t.retain k).2.get? k' = t.get? k' := by
      intro k'
      rw [get?_retain]
      split
      · next hkk => rw [← hkk, hk]; rfl
      · rfl
    refine ⟨h.sorted.retain k, ?_, ?_, ?_, ?_⟩
    · exact fun k' e he => h.minted k' e (hsame k' ▸ he)
    · exact fun k' hk' => by simp [hknown, hk, h.fresh k' hk']
    · exact fun k' e he => by simp [hknown, hk, h.balance k' e (hsame k' ▸ he)]
    · exact fun k' e he => h.pinned k' e (hsame k' ▸ he)
  | some e₀ =>
    have hminted : ∀ k' ∈ [k], k'.number < next := by
      intro k' hk'
      rw [List.mem_singleton.mp hk']
      exact h.minted k e₀ hk
    refine (h.retainAll hminted).congr (fun k' => ?_) (Nat.le_refl next)
    by_cases hkk : k' = k
    · subst hkk
      simp [hknown, hk]
    · simp [hkk, Ne.symm hkk]

/-! ### Which entries stay -/

end Accounted
end ScriptBridge.HandleTable
