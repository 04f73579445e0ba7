/-
  ScriptBridge/Proofs/Handle/Steady.lean
  ======================================
  **What a handle table is like between the opening and the closing of a scope.**

  In a steady table an entry of a scope that has not ended belongs to one of the
  open scopes, and an entry that outlived its scope has a pin.  So closing the
  innermost scope takes nothing away that was there when it was opened, except
  what somebody else took away in the meantime.  `Spans` and `Keeps` relate the
  tables at both ends of a stretch of operations: the first says where the
  handles come from, the second that one handle is still there.
-/
import ScriptBridge.Proofs.Handle.Sound

namespace ScriptBridge.HandleTable

variable {α : Type} {t t' t'' : HandleTable α} {next next' : Nat} {h : ObjectHandle}

/-! ### Steady tables -/

/-- An entry lies in an open scope until its scope ends. -/
structure Steady (t : HandleTable α) (next : Nat) : Prop extends t.Sound next where
  nested : ∀ h e, t.get? h = some e → e.closed = false → e.scope ≤ t.depth

namespace Steady

theorem empty (next : Nat) : (HandleTable.empty : HandleTable α).Steady next where
  toSound := .empty next
  nested _ _ he := by cases he

theorem mono (ht : t.Steady next) (hnext : next ≤ next') : t.Steady next' :=
  ⟨ht.toSound.mono hnext, ht.nested⟩

theorem openScope (ht : t.Steady next) : t.openScope.2.Steady next where
  toSound := ht.toSound.openScope
  nested h e he hopen := Nat.le_succ_of_le (ht.nested h e he hopen)

theorem adopt (ht : t.Steady next) (o : α) : (t.adopt ⟨next⟩ o).Steady (next + 1) where
  toSound := ht.toSound.adopt o
  nested h e he hopen := by
    rcases get?_adopt_eq_some he with ⟨-, rfl⟩ | he
    · exact Nat.le_refl _
    · exact ht.nested h e he hopen

/-- Operations that change entries where they are, or drop them. -/
theorem of_descends (ht : t.Steady next) (hdescends : t.Descends t') (hdepth : t'.depth = t.depth)
    (ht' : t'.Sound next) : t'.Steady next where
  toSound := ht'
  nested h e' he' hopen := by
    obtain ⟨e, he, hscope, hclosed⟩ := hdescends h e' he'
    have hbefore : e.closed = false := by
      cases hc : e.closed with
      | false => rfl
      | true => rw [hclosed hc] at hopen; cases hopen
    rw [hscope, hdepth]
    exact ht.nested h e he hbefore

theorem release (ht : t.Steady next) (k : ObjectHandle) : (t.release k).2.Steady next :=
  ht.of_descends (.release t k) rfl (ht.toSound.release k)

theorem retainAll (ht : t.Steady next) (hs : List ObjectHandle) : (t.retainAll hs).Steady next :=
  ht.of_descends (.retainAll t hs) (depth_retainAll t hs) (ht.toSound.retainAll hs)

theorem unpinAll (ht : t.Steady next) (hs : List ObjectHandle) : (t.unpinAll hs).Steady next :=
  ht.of_descends (.unpinAll t hs) (depth_unpinAll t hs) (ht.toSound.unpinAll hs)

theorem closeScope (ht : t.Steady next) (token : ScopeToken) :
    (t.closeScope token).2.Steady next where
  toSound := ht.toSound.closeScope token
  nested h e he hopen := by
    obtain ⟨e₀, -, ⟨houter, rfl⟩ | ⟨-, -, rfl⟩⟩ := get?_closeScope_eq_some ht.sorted he
    · exact Nat.le_sub_one_of_lt houter
    · cases hopen

end Steady

/-! ### Operations that take nothing away -/

/-- What an operation that takes no handle away makes of a table and of the next handle. -/
inductive Grows (next : Nat) (t : HandleTable α) : HandleTable α → Nat → Prop where
  | adopt (o : α) : Grows next t (t.adopt ⟨next⟩ o) (next + 1)
  /-- Some handles are retained, while others may be minted for other tables. -/
  | retain (hs : List ObjectHandle) {next' : Nat} (hnext : next ≤ next') :
      Grows next t (t.retainAll hs) next'

theorem Grows.of_eq (htable : t' = t) (hnext : next' = next) : Grows next t t' next' := by
  subst htable hnext
  exact .retain [] (Nat.le_refl _)

theorem Grows.le (h : Grows next t t' next') : next ≤ next' := by
  cases h with
  | adopt o => exact Nat.le_succ next
  | retain hs hnext => exact hnext

theorem Steady.grows (ht : t.Steady next) (h : Grows next t t' next') : t'.Steady next' := by
  cases h with
  | adopt o => exact ht.adopt o
  | retain hs hnext => exact (ht.retainAll hs).mono hnext

/-! ### Where handles come from -/

/-- The later table has the same scopes open.  Its handles that were minted before are old ones in
    their old scopes, and the others were adopted in the innermost open scope or inside it. -/
structure Spans (next : Nat) (t t' : HandleTable α) : Prop where
  depth : t'.depth = t.depth
  older : ∀ h e', t'.get? h = some e' → h.number < next → ∃ e, t.get? h = some e ∧ e'.scope = e.scope
  newer : ∀ h e', t'.get? h = some e' → next ≤ h.number → t.depth ≤ e'.scope

namespace Spans

theorem refl (ht : t.Steady next) : Spans next t t where
  depth := rfl
  older _ e he _ := ⟨e, he, rfl⟩
  newer h e he hnew := absurd (ht.minted h e he) (Nat.not_lt.mpr hnew)

theorem trans (hfirst : Spans next t t') (hnext : next ≤ next') (hsecond : Spans next' t' t'') :
    Spans next t t'' where
  depth := hsecond.depth.trans hfirst.depth
  older h e'' he'' hold := by
    obtain ⟨e', he', hscope'⟩ := hsecond.older h e'' he'' (Nat.lt_of_lt_of_le hold hnext)
    obtain ⟨e, he, hscope⟩ := hfirst.older h e' he' hold
    exact ⟨e, he, hscope'.trans hscope⟩
  newer h e'' he'' hnew := by
    by_cases hlater : next' ≤ h.number
    · exact hfirst.depth ▸ hsecond.newer h e'' he'' hlater
    · obtain ⟨e', he', hscope⟩ := hsecond.older h e'' he'' (Nat.lt_of_not_le hlater)
      exact hscope ▸ hfirst.newer h e' he' hnew

/-- Operations that only change or drop entries. -/
theorem of_descends (ht : t.Steady next) (hdescends : t.Descends t') (hdepth : t'.depth = t.depth) :
    Spans next t t' where
  depth := hdepth
  older h e' he' _ := by
    obtain ⟨e, he, hscope, -⟩ := hdescends h e' he'
    exact ⟨e, he, hscope⟩
  newer h e' he' hnew := by
    obtain ⟨e, he, -⟩ := hdescends h e' he'
    exact absurd (ht.minted h e he) (Nat.not_lt.mpr hnew)

theorem adopt (ht : t.Steady next) (o : α) : Spans next t (t.adopt ⟨next⟩ o) where
  depth := rfl
  older h e' he' hold := by
    rcases get?_adopt_eq_some he' with ⟨rfl, -⟩ | he'
    · exact absurd hold (Nat.lt_irrefl next)
    · exact ⟨e', he', rfl⟩
  newer h e' he' hnew := by
    rcases get?_adopt_eq_some he' with ⟨-, rfl⟩ | he'
    · exact Nat.le_refl _
    · exact absurd (ht.minted h e' he') (Nat.not_lt.mpr hnew)

theorem grows (ht : t.Steady next) (h : Grows next t t' next') : Spans next t t' := by
  cases h with
  | adopt o => exact .adopt ht o
  | retain hs _ => exact .of_descends ht (.retainAll t hs) (depth_retainAll t hs)

/-- A stretch between the opening and the closing of a scope. -/
theorem scope (ht' : t'.Sorted) (hinner : Spans next t.openScope.2 t') :
    Spans next t (t'.closeScope t.openScope.1).2 where
  depth := rfl
  older h e'' he'' hold := by
    obtain ⟨e', he', hscope', -⟩ := Descends.closeScope ht' _ he''
    obtain ⟨e, he, hscope⟩ := hinner.older h e' he' hold
    exact ⟨e, he, hscope'.trans hscope⟩
  newer h e'' he'' hnew := by
    obtain ⟨e', he', hscope', -⟩ := Descends.closeScope ht' _ he''
    have hinside : t.depth + 1 ≤ e'.scope := hinner.newer h e' he' hnew
    omega

end Spans

/-! ### One handle that stays -/

/-- If the handle resolves in the first table, it does in the second, to the same object and from the
    same scope. -/
def Keeps (h : ObjectHandle) (t t' : HandleTable α) : Prop :=
  ∀ e, t.get? h = some e → ∃ e', t'.get? h = some e' ∧ e'.object = e.object ∧ e'.scope = e.scope ∧
    (e.closed = true → e'.closed = true)

namespace Keeps

theorem refl (h : ObjectHandle) (t : HandleTable α) : Keeps h t t := fun e he => ⟨e, he, rfl, rfl, id⟩

theorem of_get?_eq (hsame : t'.get? h = t.get? h) : Keeps h t t' := fun e he =>
  ⟨e, hsame.trans he, rfl, rfl, id⟩

theorem trans (hfirst : Keeps h t t') (hsecond : Keeps h t' t'') : Keeps h t t'' := by
  intro e he
  obtain ⟨e', he', hobject, hscope, hclosed⟩ := hfirst e he
  obtain ⟨e'', he'', hobject', hscope', hclosed'⟩ := hsecond e' he'
  exact ⟨e'', he'', hobject'.trans hobject, hscope'.trans hscope, fun hc => hclosed' (hclosed hc)⟩

theorem adopt (ht : t.Steady next) (o : α) : Keeps h t (t.adopt ⟨next⟩ o) := by
  intro e he
  have hother : (⟨next⟩ : ObjectHandle) ≠ h := by
    intro heq
    subst heq
    exact Nat.lt_irrefl next (ht.minted _ e he)
  exact ⟨e, by rwa [get?_adopt_of_ne hother], rfl, rfl, id⟩

theorem retainAll (t : HandleTable α) (hs : List ObjectHandle) : Keeps h t (t.retainAll hs) := by
  intro e he
  exact ⟨e.addPins (hs.count h), by rw [get?_retainAll, he, Option.map_some], rfl, rfl, id⟩

theorem grows (ht : t.Steady next) (hgrows : Grows next t t' next') : Keeps h t t' := by
  cases hgrows with
  | adopt o => exact .adopt ht o
  | retain hs _ => exact .retainAll t hs

/-- Pins are taken from the handle, but not the last ones after its scope ended. -/
theorem unpinAll {hs : List ObjectHandle}
    (hpins : ∀ e, t.get? h = some e → e.closed = true → hs.count h < e.pins) :
    Keeps h t (t.unpinAll hs) := by
  intro e he
  have hdrop : e.dropPins (hs.count h) = some { e with pins := e.pins - hs.count h } :=
    if_neg fun hlast => Nat.not_lt.mpr hlast.2.1 (hpins e he hlast.2.2)
  have hleft : (t.unpinAll hs).get? h = some { e with pins := e.pins - hs.count h } := by
    rw [get?_unpinAll, he, Option.bind_some, hdrop]
  exact ⟨_, hleft, rfl, rfl, id⟩

/-- A stretch between the opening and the closing of a scope: what was there before is in an outer
    scope, or outlived its own and is pinned. -/
theorem scope (ht : t.Steady next) (ht' : t'.Steady next') (hinner : Keeps h t.openScope.2 t') :
    Keeps h t (t'.closeScope t.openScope.1).2 := by
  intro e he
  obtain ⟨e', he', hobject, hscope, hclosed⟩ := hinner e he
  rw [get?_closeScope ht'.sorted, he', Option.bind_some, HandleEntry.afterScope]
  by_cases houter : e'.scope < t.openScope.1.depth
  · rw [if_pos houter]
    exact ⟨e', rfl, hobject, hscope, hclosed⟩
  · have hended : e.closed = true := by
      refine Bool.not_eq_false _ ▸ fun hopen => houter ?_
      rw [hscope]
      exact Nat.lt_succ_of_le (ht.nested h e he hopen)
    rw [if_neg houter, if_pos (ht'.pinned h e' he' (hclosed hended))]
    exact ⟨_, rfl, hobject, hscope, fun _ => rfl⟩

end Keeps
end ScriptBridge.HandleTable
