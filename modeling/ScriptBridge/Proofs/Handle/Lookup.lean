/-
  ScriptBridge/Proofs/Handle/Lookup.lean
  ======================================
  **How a look-up of a handle sees each operation of the table.**

  One equation for each operation says what becomes of the entry of a handle, so
  that later proofs never open the table.  A walk over a list of handles pins or
  unpins a handle as often as it stands in the list; an unpinning walk may drop
  the handle half-way, and the rest of the walk then leaves it dropped.
-/
import ScriptBridge.Handle.Table
import ScriptBridge.Proofs.Data.Sorted

namespace ScriptBridge

namespace HandleEntry

variable {α : Type}

/-- The entry with so many pins more. -/
def addPins (n : Nat) (e : HandleEntry α) : HandleEntry α := { e with pins := e.pins + n }

/-- The entry with so many pins less; none is left when the last pin goes after the scope ended. -/
def dropPins (n : Nat) (e : HandleEntry α) : Option (HandleEntry α) :=
  if 0 < n ∧ e.pins ≤ n ∧ e.closed = true then none else some { e with pins := e.pins - n }

/-- What a closed scope leaves of an entry. -/
def afterScope (token : ScopeToken) (e : HandleEntry α) : Option (HandleEntry α) :=
  if e.scope < token.depth then some e
  else if 0 < e.pins then some { e with closed := true } else none

@[simp] theorem addPins_zero (e : HandleEntry α) : e.addPins 0 = e := rfl

@[simp] theorem dropPins_zero (e : HandleEntry α) : e.dropPins 0 = some e := by simp [dropPins]

theorem dropPins_succ (n : Nat) (e : HandleEntry α) :
    e.dropPins (n + 1) = (e.dropPins 1).bind (dropPins n) := by
  obtain ⟨object, scope, pins, closed⟩ := e
  unfold dropPins
  by_cases h1 : pins ≤ 1 <;> by_cases hn : pins ≤ n + 1 <;> cases closed <;> simp [h1, hn] <;> omega

end HandleEntry

namespace HandleTable

variable {α : Type}

/-- The handles of the table increase. -/
def Sorted (t : HandleTable α) : Prop := Assoc.Sorted t.entries

theorem sorted_empty : (empty : HandleTable α).Sorted := Assoc.sorted_nil

theorem find?_eq_none_iff {t : HandleTable α} {h : ObjectHandle} :
    t.find? h = none ↔ t.get? h = none := Option.map_eq_none_iff

theorem isSome_find? (t : HandleTable α) (h : ObjectHandle) :
    (t.find? h).isSome = (t.get? h).isSome := Option.isSome_map

/-! ### One equation for each operation -/

@[simp] theorem get?_adopt_self (t : HandleTable α) (h : ObjectHandle) (o : α) :
    (t.adopt h o).get? h = some ⟨o, t.depth, 0, false⟩ := Assoc.find?_insert_self ..

theorem get?_adopt_of_ne {h h' : ObjectHandle} (hne : h ≠ h') (t : HandleTable α) (o : α) :
    (t.adopt h o).get? h' = t.get? h' := Assoc.find?_insert_of_ne hne ..

/-- After an adoption an entry is the new one or was there before. -/
theorem get?_adopt_eq_some {t : HandleTable α} {h h' : ObjectHandle} {o : α} {e : HandleEntry α}
    (he : (t.adopt h o).get? h' = some e) :
    (h' = h ∧ e = ⟨o, t.depth, 0, false⟩) ∨ t.get? h' = some e := by
  by_cases hh : h = h'
  · subst hh
    rw [get?_adopt_self] at he
    exact Or.inl ⟨rfl, (Option.some.inj he).symm⟩
  · rw [get?_adopt_of_ne hh] at he
    exact Or.inr he

theorem get?_retain (t : HandleTable α) (h h' : ObjectHandle) :
    (t.retain h).2.get? h' =
      if h = h' then (t.get? h').map (HandleEntry.addPins 1) else t.get? h' :=
  Assoc.find?_modify h h' (HandleEntry.addPins 1) t.entries

theorem get?_release (t : HandleTable α) (h h' : ObjectHandle) :
    (t.release h).2.get? h' = if h = h' then none else t.get? h' := by
  unfold release get?
  split
  · next hh => rw [hh, Assoc.find?_erase_self]
  · next hh => exact Assoc.find?_erase_of_ne hh _

theorem get?_unpin (t : HandleTable α) (h h' : ObjectHandle) :
    (t.unpin h).get? h' =
      if h = h' then (t.get? h').bind (HandleEntry.dropPins 1) else t.get? h' := by
  unfold unpin
  split
  · next he =>
    by_cases hh : h = h'
    · subst hh
      simp [he]
    · simp [hh]
  · next e he =>
    by_cases hlast : e.pins - 1 = 0 ∧ e.closed = true
    · rw [if_pos hlast]
      by_cases hh : h = h'
      · subst hh
        have hdrop : e.dropPins 1 = none := if_pos ⟨Nat.one_pos, by omega, hlast.2⟩
        rw [if_pos rfl, he, Option.bind_some, hdrop]
        exact Assoc.find?_erase_self h t.entries
      · rw [if_neg hh]
        exact Assoc.find?_erase_of_ne hh t.entries
    · rw [if_neg hlast]
      have hmod := Assoc.find?_modify h h' (fun e => { e with pins := e.pins - 1 }) t.entries
      by_cases hh : h = h'
      · subst hh
        have hdrop : e.dropPins 1 = some { e with pins := e.pins - 1 } :=
          if_neg fun hc => hlast ⟨by omega, hc.2.2⟩
        rw [if_pos rfl, he, Option.bind_some, hdrop]
        exact hmod.trans (by rw [if_pos rfl]; exact congrArg (Option.map _) he)
      · rw [if_neg hh] at hmod ⊢
        exact hmod

theorem afterScope_eq_some_iff (token : ScopeToken) (e e' : HandleEntry α) :
    e.afterScope token = some e' ↔
      endScope token e = e' ∧ ((endScope token e).scope < token.depth ∨ 0 < (endScope token e).pins) := by
  by_cases hs : e.scope < token.depth
  · simp [HandleEntry.afterScope, endScope, hs]
  · by_cases hp : 0 < e.pins <;> simp [HandleEntry.afterScope, endScope, hs, hp]

/-- In a sorted table a closed scope takes each entry for itself. -/
theorem get?_closeScope {t : HandleTable α} (ht : t.Sorted) (token : ScopeToken)
    (h : ObjectHandle) :
    (t.closeScope token).2.get? h = (t.get? h).bind (HandleEntry.afterScope token) := by
  have hsorted : Assoc.Sorted (t.closeScope token).2.entries :=
    (ht.map (f := fun e => (e.1, endScope token e.2)) fun _ => rfl).filter _
  -- A handle stands at most once in a sorted table, so a look-up is membership.
  apply Option.ext
  intro e'
  have hmem : (h, e') ∈ (t.closeScope token).2.entries ↔
      ∃ e, (h, e) ∈ t.entries ∧ HandleEntry.afterScope token e = some e' := by
    simp only [closeScope, List.mem_filter, List.mem_map, Bool.or_eq_true, decide_eq_true_eq,
      Prod.mk.injEq, Prod.exists]
    constructor
    · rintro ⟨⟨k, e, he, rfl, rfl⟩, hkept⟩
      exact ⟨e, he, (afterScope_eq_some_iff token e _).mpr ⟨rfl, hkept⟩⟩
    · rintro ⟨e, he, hafter⟩
      obtain ⟨rfl, hkept⟩ := (afterScope_eq_some_iff token e _).mp hafter
      exact ⟨⟨h, e, he, rfl, rfl⟩, hkept⟩
  unfold get?
  rw [hsorted.find?_eq_some_iff, hmem, Option.bind_eq_some_iff]
  exact exists_congr fun e => and_congr_left' ht.find?_eq_some_iff.symm

/-! ### Walks -/

theorem get?_retainAll (t : HandleTable α) (hs : List ObjectHandle) (h : ObjectHandle) :
    (t.retainAll hs).get? h = (t.get? h).map (HandleEntry.addPins (hs.count h)) := by
  induction hs generalizing t with
  | nil => cases ht : t.get? h <;> simp [retainAll, ht]
  | cons h' hs ih =>
    have hstep : (t.retainAll (h' :: hs)).get? h = ((t.retain h').2.retainAll hs).get? h := rfl
    rw [hstep, ih, get?_retain]
    by_cases hh : h' = h
    · subst hh
      cases ht : t.get? h' <;> simp [HandleEntry.addPins]
      omega
    · simp [hh]

theorem get?_unpinAll (t : HandleTable α) (hs : List ObjectHandle) (h : ObjectHandle) :
    (t.unpinAll hs).get? h = (t.get? h).bind (HandleEntry.dropPins (hs.count h)) := by
  induction hs generalizing t with
  | nil => cases ht : t.get? h <;> simp [unpinAll, ht]
  | cons h' hs ih =>
    have hstep : (t.unpinAll (h' :: hs)).get? h = ((t.unpin h').unpinAll hs).get? h := rfl
    rw [hstep, ih, get?_unpin]
    by_cases hh : h' = h
    · subst hh
      cases ht : t.get? h' with
      | none => simp
      | some e =>
        -- The first step may drop the entry; the rest of the walk then finds none.
        rw [if_pos rfl, List.count_cons_self, Option.bind_some, Option.bind_some]
        exact (HandleEntry.dropPins_succ _ e).symm
    · simp [hh]

/-! ### Order and depth -/

namespace Sorted

variable {t : HandleTable α}

theorem adopt (ht : t.Sorted) (h : ObjectHandle) (o : α) : (t.adopt h o).Sorted :=
  Assoc.Sorted.insert ht _ _

theorem retain (ht : t.Sorted) (h : ObjectHandle) : (t.retain h).2.Sorted :=
  Assoc.Sorted.modify ht h (HandleEntry.addPins 1)

theorem release (ht : t.Sorted) (h : ObjectHandle) : (t.release h).2.Sorted :=
  Assoc.Sorted.erase ht _

theorem unpin (ht : t.Sorted) (h : ObjectHandle) : (t.unpin h).Sorted := by
  unfold HandleTable.unpin
  split
  · exact ht
  · split
    · exact Assoc.Sorted.erase ht h
    · exact Assoc.Sorted.modify ht h fun e => { e with pins := e.pins - 1 }

theorem closeScope (ht : t.Sorted) (token : ScopeToken) : (t.closeScope token).2.Sorted :=
  (Assoc.Sorted.map ht (f := fun e => (e.1, endScope token e.2)) fun _ => rfl).filter _

theorem retainAll (ht : t.Sorted) (hs : List ObjectHandle) : (t.retainAll hs).Sorted := by
  induction hs generalizing t with
  | nil => exact ht
  | cons h hs ih => exact ih (ht.retain h)

theorem unpinAll (ht : t.Sorted) (hs : List ObjectHandle) : (t.unpinAll hs).Sorted := by
  induction hs generalizing t with
  | nil => exact ht
  | cons h hs ih => exact ih (ht.unpin h)

end Sorted

@[simp] theorem depth_unpin (t : HandleTable α) (h : ObjectHandle) : (t.unpin h).depth = t.depth := by
  unfold unpin
  split
  · rfl
  · split <;> rfl

@[simp] theorem depth_retainAll (t : HandleTable α) (hs : List ObjectHandle) :
    (t.retainAll hs).depth = t.depth := by
  induction hs generalizing t with
  | nil => rfl
  | cons h hs ih => exact ih (t.retain h).2

@[simp] theorem depth_unpinAll (t : HandleTable α) (hs : List ObjectHandle) :
    (t.unpinAll hs).depth = t.depth := by
  induction hs generalizing t with
  | nil => rfl
  | cons h hs ih => exact (ih (t.unpin h)).trans (depth_unpin t h)

/-! ### Where an entry comes from -/

section Origin

variable {t : HandleTable α} {h k : ObjectHandle} {hs : List ObjectHandle} {e : HandleEntry α}

theorem get?_release_eq_some (he : (t.release k).2.get? h = some e) : t.get? h = some e := by
  rw [get?_release] at he
  split at he
  · cases he
  · exact he

theorem get?_retainAll_eq_some (he : (t.retainAll hs).get? h = some e) :
    ∃ e₀, t.get? h = some e₀ ∧ e = e₀.addPins (hs.count h) := by
  rw [get?_retainAll, Option.map_eq_some_iff] at he
  obtain ⟨e₀, he₀, rfl⟩ := he
  exact ⟨e₀, he₀, rfl⟩

/-- What an unpinning walk leaves of a closed entry still has a pin. -/
theorem get?_unpinAll_eq_some (he : (t.unpinAll hs).get? h = some e) :
    ∃ e₀, t.get? h = some e₀ ∧ e = { e₀ with pins := e₀.pins - hs.count h } ∧
      (e₀.closed = true → 0 < e₀.pins → 0 < e.pins) := by
  rw [get?_unpinAll, Option.bind_eq_some_iff] at he
  obtain ⟨e₀, he₀, hdrop⟩ := he
  unfold HandleEntry.dropPins at hdrop
  split at hdrop
  · cases hdrop
  · next hkept =>
    cases hdrop
    refine ⟨e₀, he₀, rfl, fun hclosed hpins => ?_⟩
    -- A walk that took all the pins would have dropped the entry.
    by_cases hzero : hs.count h = 0
    · simp only
      omega
    · have hmore : ¬ e₀.pins ≤ hs.count h := fun hle =>
        hkept ⟨Nat.pos_of_ne_zero hzero, hle, hclosed⟩
      simp only
      omega

/-- What a closed scope leaves of an entry is the entry of an outer scope, or a pinned one that is
    closed from then on. -/
theorem get?_closeScope_eq_some (ht : t.Sorted) {token : ScopeToken}
    (he : (t.closeScope token).2.get? h = some e) :
    ∃ e₀, t.get? h = some e₀ ∧
      ((e₀.scope < token.depth ∧ e = e₀) ∨
        (token.depth ≤ e₀.scope ∧ 0 < e₀.pins ∧ e = { e₀ with closed := true })) := by
  rw [get?_closeScope ht, Option.bind_eq_some_iff] at he
  obtain ⟨e₀, he₀, hafter⟩ := he
  refine ⟨e₀, he₀, ?_⟩
  unfold HandleEntry.afterScope at hafter
  split at hafter
  · next houter =>
    cases hafter
    exact Or.inl ⟨houter, rfl⟩
  · next hinside =>
    split at hafter
    · next hpins =>
      cases hafter
      exact Or.inr ⟨Nat.le_of_not_lt hinside, hpins, rfl⟩
    · cases hafter

end Origin

/-! ### Tables whose entries were there before -/

/-- Every entry of the later table was there before, in the same scope, and stayed closed if it was. -/
def Descends (t t' : HandleTable α) : Prop :=
  ∀ h e', t'.get? h = some e' →
    ∃ e, t.get? h = some e ∧ e'.scope = e.scope ∧ (e.closed = true → e'.closed = true)

namespace Descends

variable {t t' t'' : HandleTable α}

theorem refl (t : HandleTable α) : t.Descends t := fun _ e he => ⟨e, he, rfl, id⟩

theorem trans (h : t.Descends t') (h' : t'.Descends t'') : t.Descends t'' := by
  intro k e'' he''
  obtain ⟨e', he', hscope', hclosed'⟩ := h' k e'' he''
  obtain ⟨e, he, hscope, hclosed⟩ := h k e' he'
  exact ⟨e, he, hscope'.trans hscope, fun hc => hclosed' (hclosed hc)⟩

theorem retain (t : HandleTable α) (h : ObjectHandle) : t.Descends (t.retain h).2 := by
  intro k e' he'
  rw [get?_retain] at he'
  split at he'
  · obtain ⟨e, he, rfl⟩ := Option.map_eq_some_iff.mp he'
    exact ⟨e, he, rfl, id⟩
  · exact ⟨e', he', rfl, id⟩

theorem release (t : HandleTable α) (h : ObjectHandle) : t.Descends (t.release h).2 :=
  fun _ e' he' => ⟨e', get?_release_eq_some he', rfl, id⟩

theorem retainAll (t : HandleTable α) (hs : List ObjectHandle) : t.Descends (t.retainAll hs) := by
  intro k e' he'
  obtain ⟨e, he, rfl⟩ := get?_retainAll_eq_some he'
  exact ⟨e, he, rfl, id⟩

theorem unpinAll (t : HandleTable α) (hs : List ObjectHandle) : t.Descends (t.unpinAll hs) := by
  intro k e' he'
  obtain ⟨e, he, rfl, -⟩ := get?_unpinAll_eq_some he'
  exact ⟨e, he, rfl, id⟩

/-- A closed scope leaves no entry of its own, or of a scope inside it, that is not closed. -/
theorem closeScope (ht : t.Sorted) (token : ScopeToken) {k : ObjectHandle} {e' : HandleEntry α}
    (he' : (t.closeScope token).2.get? k = some e') :
    ∃ e, t.get? k = some e ∧ e'.scope = e.scope ∧ (e.closed = true → e'.closed = true) ∧
      (token.depth ≤ e.scope → e'.closed = true) := by
  obtain ⟨e, he, ⟨houter, rfl⟩ | ⟨-, -, rfl⟩⟩ := get?_closeScope_eq_some ht he'
  · exact ⟨e', he, rfl, id, fun hinside => absurd houter (Nat.not_lt.mpr hinside)⟩
  · exact ⟨e, he, rfl, fun _ => rfl, fun _ => rfl⟩

end Descends
end HandleTable
end ScriptBridge
