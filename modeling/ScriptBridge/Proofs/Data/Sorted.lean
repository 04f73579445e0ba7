/-
  ScriptBridge/Proofs/Data/Sorted.lean
  ====================================
  **Maps whose keys strictly increase.**

  The tables of a bridge only ever change through `insert`, `modify` and `erase`,
  which keep the keys increasing.  In such a table a look-up finds exactly the
  entries that are there, and an insertion or an erasure exchanges one entry and
  leaves all others: `perm_insert` and `perm_erase` say so up to order, which is
  what counting over a whole table needs.
-/
import ScriptBridge.Value.Basic

namespace ScriptBridge

/-- Keys of which two that differ are comparable. -/
class OrderedKey (κ : Type) [LT κ] : Prop where
  irrefl : ∀ k : κ, ¬ k < k
  trans : ∀ {a b c : κ}, a < b → b < c → a < c
  lt_of_ne : ∀ {a b : κ}, ¬ a < b → a ≠ b → b < a

instance : OrderedKey Int64 where
  irrefl _ := Int64.lt_irrefl
  trans := Int64.lt_trans
  lt_of_ne h hne := Int64.lt_of_le_of_ne (Int64.not_lt.mp h) (Ne.symm hne)

instance : OrderedKey ObjectHandle where
  irrefl k := Nat.lt_irrefl k.number
  trans := Nat.lt_trans
  lt_of_ne {a b} h hne := by
    have hne' : a.number ≠ b.number := fun he => hne (by cases a; cases b; simp_all)
    exact Nat.lt_of_le_of_ne (Nat.not_lt.mp h) (Ne.symm hne')

instance : OrderedKey String where
  irrefl := String.lt_irrefl
  trans := String.lt_trans
  lt_of_ne h hne := by
    refine Decidable.byContradiction fun hnot => hne ?_
    exact String.le_antisymm (String.not_lt.mp hnot) (String.not_lt.mp h)

namespace Assoc

variable {κ α : Type}

/-- The keys strictly increase. -/
def Sorted [LT κ] (l : List (κ × α)) : Prop := l.Pairwise fun a b => a.1 < b.1

theorem sorted_nil [LT κ] : Sorted ([] : List (κ × α)) := List.Pairwise.nil

/-! ### Look-ups and members of any table -/

section Members

variable [DecidableEq κ] {k : κ} {a : α} {l : List (κ × α)}

theorem mem_of_find? (h : find? k l = some a) : (k, a) ∈ l := by
  induction l with
  | nil => simp at h
  | cons e rest ih =>
    obtain ⟨k', a'⟩ := e
    rw [find?_cons] at h
    split at h
    · next hk => simp_all
    · exact List.mem_cons_of_mem _ (ih h)

theorem mem_of_mem_insert [LT κ] [DecidableLT κ] {e : κ × α} (h : e ∈ insert k a l) :
    e = (k, a) ∨ e ∈ l := by
  induction l with
  | nil => simpa [insert] using h
  | cons e' rest ih =>
    obtain ⟨k', a'⟩ := e'
    unfold insert at h
    split at h
    · rcases List.mem_cons.mp h with h | h
      · exact Or.inl h
      · exact Or.inr (List.mem_cons_of_mem _ h)
    · split at h
      · exact List.mem_cons.mp h
      · rcases List.mem_cons.mp h with h | h
        · exact Or.inr (h ▸ List.mem_cons_self)
        · exact (ih h).imp id (List.mem_cons_of_mem _)

/-- Of two insertions under one key the later one stays. -/
theorem insert_insert [LT κ] [DecidableLT κ] (k : κ) (a b : α) (l : List (κ × α)) :
    insert k b (insert k a l) = insert k b l := by
  induction l with
  | nil => simp [insert]
  | cons e rest ih =>
    obtain ⟨k', a'⟩ := e
    by_cases hk : k' = k
    · simp [insert, hk]
    · by_cases hlt : k < k'
      · simp [insert, hk, hlt]
      · simp [insert, hk, hlt, ih]

theorem find?_eq_none_iff : find? k l = none ↔ ∀ e ∈ l, e.1 ≠ k := by
  induction l with
  | nil => simp
  | cons e rest ih =>
    obtain ⟨k', a⟩ := e
    rw [find?_cons]
    by_cases h : k' = k <;> simp [h, ih]

theorem erase_eq_self (h : ∀ e ∈ l, e.1 ≠ k) : erase k l = l :=
  List.filter_eq_self.mpr fun e he => by simpa using h e he

theorem erase_cons_self : erase k ((k, a) :: l) = erase k l := by simp [erase]

theorem erase_cons_of_ne {k' : κ} (h : k' ≠ k) : erase k ((k', a) :: l) = (k', a) :: erase k l := by
  simp [erase, h]

theorem find?_map_snd (f : κ → α → α) (k : κ) (l : List (κ × α)) :
    find? k (l.map fun e => (e.1, f e.1 e.2)) = (find? k l).map (f k) := by
  induction l with
  | nil => simp
  | cons e rest ih =>
    obtain ⟨k', a⟩ := e
    by_cases h : k' = k
    · subst h
      simp [find?]
    · simpa [find?, h] using ih

section Renaming

variable {κ' : Type} [DecidableEq κ'] (f : κ → κ') (hf : ∀ k k', f k = f k' → k = k')

include hf

/-- Keys that are renamed one to one are found under their new names. -/
theorem find?_map_key (k : κ) (l : List (κ × α)) :
    find? (f k) (l.map fun e => (f e.1, e.2)) = find? k l := by
  induction l with
  | nil => rfl
  | cons e rest ih =>
    obtain ⟨k', a⟩ := e
    simp only [List.map_cons, find?_cons, ih]
    by_cases h : k' = k
    · rw [if_pos h, if_pos (congrArg f h)]
    · rw [if_neg h, if_neg fun hk => h (hf k' k hk)]

theorem erase_map_key (k : κ) (l : List (κ × α)) :
    erase (f k) (l.map fun e => (f e.1, e.2)) = (erase k l).map fun e => (f e.1, e.2) := by
  rw [erase, erase, List.filter_map]
  congr 2
  funext e
  exact decide_eq_decide.mpr (not_congr ⟨hf e.1 k, congrArg f⟩)

theorem modify_map_key (k : κ) (g : α → α) (l : List (κ × α)) :
    modify (f k) g (l.map fun e => (f e.1, e.2)) = (modify k g l).map fun e => (f e.1, e.2) := by
  rw [modify, modify, List.map_map, List.map_map]
  congr 1
  funext e
  simp only [Function.comp_apply]
  by_cases h : e.1 = k
  · rw [if_pos h, if_pos (congrArg f h)]
  · rw [if_neg h, if_neg fun hk => h (hf e.1 k hk)]

theorem insert_map_key [LT κ] [DecidableLT κ] [LT κ'] [DecidableLT κ']
    (hlt : ∀ k k', f k < f k' ↔ k < k') (k : κ) (a : α) (l : List (κ × α)) :
    insert (f k) a (l.map fun e => (f e.1, e.2)) = (insert k a l).map fun e => (f e.1, e.2) := by
  induction l with
  | nil => rfl
  | cons e rest ih =>
    obtain ⟨k', a'⟩ := e
    simp only [insert, List.map_cons]
    by_cases hk : k' = k
    · rw [if_pos hk, if_pos (congrArg f hk), List.map_cons]
    · rw [if_neg hk, if_neg fun h => hk (hf k' k h)]
      by_cases hbelow : k < k'
      · rw [if_pos hbelow, if_pos ((hlt k k').mpr hbelow), List.map_cons, List.map_cons]
      · rw [if_neg hbelow, if_neg (mt (hlt k k').mp hbelow), List.map_cons, ih]

end Renaming

/-- An insertion and a change of all that stands under the keys may change places. -/
theorem map_insert [LT κ] [DecidableLT κ] {β : Type} (f : α → β) (k : κ) (a : α) (l : List (κ × α)) :
    (insert k a l).map (fun e => (e.1, f e.2)) = insert k (f a) (l.map fun e => (e.1, f e.2)) := by
  induction l with
  | nil => rfl
  | cons e rest ih =>
    obtain ⟨k', a'⟩ := e
    simp only [insert, List.map_cons]
    by_cases hk : k' = k
    · rw [if_pos hk, if_pos hk, List.map_cons]
    · rw [if_neg hk, if_neg hk]
      by_cases hlt : k < k'
      · rw [if_pos hlt, if_pos hlt, List.map_cons, List.map_cons]
      · rw [if_neg hlt, if_neg hlt, List.map_cons, ih]

/-! ### The last entry under a key -/

/-- The last entry under a key, where earlier ones are hidden by later ones. -/
def last? (k : κ) (l : List (κ × α)) : Option α := find? k l.reverse

theorem find?_append (k : κ) (l l' : List (κ × α)) :
    find? k (l ++ l') = (find? k l).or (find? k l') := by
  induction l with
  | nil => rfl
  | cons e rest ih =>
    obtain ⟨k', a⟩ := e
    by_cases h : k' = k <;> simp [find?_cons, h, ih]

theorem last?_append (k : κ) (l l' : List (κ × α)) :
    last? k (l ++ l') = (last? k l').or (last? k l) := by
  rw [last?, List.reverse_append, find?_append]
  rfl

theorem last?_cons (k k' : κ) (a : α) (l : List (κ × α)) :
    last? k ((k', a) :: l) = (last? k l).or (if k' = k then some a else none) := by
  rw [← List.singleton_append, last?_append]
  rfl

theorem last?_map_snd {β : Type} (f : α → β) (k : κ) (l : List (κ × α)) :
    last? k (l.map fun e => (e.1, f e.2)) = (last? k l).map f := by
  induction l with
  | nil => rfl
  | cons e rest ih =>
    obtain ⟨k', a⟩ := e
    rw [List.map_cons, last?_cons, last?_cons, ih]
    by_cases h : k' = k <;> cases last? k rest <;> simp [h]

end Members

/-! ### Sorted tables -/

namespace Sorted

section Order

variable [LT κ] {e : κ × α} {l : List (κ × α)}

theorem of_cons (h : Sorted (e :: l)) : Sorted l := List.Pairwise.of_cons h

theorem lt_of_mem {e' : κ × α} (h : Sorted (e :: l)) (he : e' ∈ l) : e.1 < e'.1 :=
  List.rel_of_pairwise_cons h he

/-- No later entry has the key of the first one. -/
theorem ne_of_mem [OrderedKey κ] {e' : κ × α} (h : Sorted (e :: l)) (he : e' ∈ l) : e'.1 ≠ e.1 :=
  fun hk => OrderedKey.irrefl e.1 (hk ▸ h.lt_of_mem he)

theorem filter (h : Sorted l) (p : κ × α → Bool) : Sorted (l.filter p) := List.Pairwise.filter p h

/-- Changing what stands under the keys. -/
theorem map (h : Sorted l) {f : κ × α → κ × α} (hf : ∀ e, (f e).1 = e.1) : Sorted (l.map f) :=
  List.Pairwise.map f (fun a b hab => by rwa [hf a, hf b]) h

theorem erase [DecidableEq κ] (h : Sorted l) (k : κ) : Sorted (erase k l) := h.filter _

theorem modify [DecidableEq κ] (h : Sorted l) (k : κ) (f : α → α) : Sorted (modify k f l) :=
  h.map fun e => by split <;> rfl

end Order

variable [DecidableEq κ] [LT κ] [DecidableLT κ] [OrderedKey κ] {l : List (κ × α)}

theorem insert (h : Sorted l) (k : κ) (a : α) : Sorted (insert k a l) := by
  induction l with
  | nil => exact List.pairwise_singleton _ _
  | cons e rest ih =>
    obtain ⟨k', a'⟩ := e
    unfold Assoc.insert
    split
    · next hk =>
      subst hk
      exact h.of_cons.cons fun _ he => h.lt_of_mem he
    · next hk =>
      split
      · next hlt =>
        refine List.Pairwise.cons (fun e he => ?_) h
        rcases List.mem_cons.mp he with rfl | he
        · exact hlt
        · exact OrderedKey.trans hlt (h.lt_of_mem he)
      · next hlt =>
        refine List.Pairwise.cons (fun e he => ?_) (ih h.of_cons)
        rcases mem_of_mem_insert he with rfl | he
        · exact OrderedKey.lt_of_ne hlt (Ne.symm hk)
        · exact h.lt_of_mem he

/-- An insertion takes the place of the entry under its key. -/
theorem perm_insert (h : Sorted l) (k : κ) (a : α) :
    (Assoc.insert k a l).Perm ((k, a) :: Assoc.erase k l) := by
  induction l with
  | nil => simp [Assoc.insert, Assoc.erase]
  | cons e rest ih =>
    obtain ⟨k', a'⟩ := e
    unfold Assoc.insert
    split
    · next hk =>
      subst hk
      rw [erase_cons_self, erase_eq_self fun _ he => h.ne_of_mem he]
    · next hk =>
      split
      · next hlt =>
        have hself : Assoc.erase k ((k', a') :: rest) = (k', a') :: rest :=
          erase_eq_self fun e he hek => by
            rcases List.mem_cons.mp he with rfl | he
            · exact hk hek
            · exact OrderedKey.irrefl k (OrderedKey.trans hlt (hek ▸ h.lt_of_mem he))
        rw [hself]
      · rw [erase_cons_of_ne hk]
        exact ((ih h.of_cons).cons (k', a')).trans (List.Perm.swap ..)

/-- Writing over an entry shows only in what is read off the entry. -/
theorem map_insert_of_find? {β : Type} (h : Sorted l) {k : κ} {a a' : α} (hk : find? k l = some a')
    {f : α → β} (hf : f a = f a') :
    (Assoc.insert k a l).map (fun e => (e.1, f e.2)) = l.map fun e => (e.1, f e.2) := by
  induction l with
  | nil => cases hk
  | cons e rest ih =>
    obtain ⟨k', b⟩ := e
    rw [find?_cons] at hk
    unfold Assoc.insert
    split
    · next hkk =>
      rw [if_pos hkk] at hk
      cases hk
      simp [hf, hkk]
    · next hkk =>
      rw [if_neg hkk] at hk
      have hlt : k' < k := h.lt_of_mem (mem_of_find? hk)
      rw [if_neg fun hk' => OrderedKey.irrefl k (OrderedKey.trans hk' hlt), List.map_cons,
        ih h.of_cons hk, List.map_cons]

omit [DecidableLT κ]

/-- A look-up finds exactly the entries of the table. -/
theorem find?_eq_some_iff (h : Sorted l) {k : κ} {a : α} : find? k l = some a ↔ (k, a) ∈ l := by
  refine ⟨mem_of_find?, fun hmem => ?_⟩
  induction l with
  | nil => simp at hmem
  | cons e rest ih =>
    rcases List.mem_cons.mp hmem with he | he
    · subst he
      simp [find?]
    · obtain ⟨k', a'⟩ := e
      have hne : k' ≠ k := fun hk => h.ne_of_mem he hk.symm
      rw [find?_cons, if_neg hne]
      exact ih h.of_cons he

/-- Tables in which the same is found under every key are the same. -/
theorem ext {l' : List (κ × α)} (h : Sorted l) (h' : Sorted l')
    (hfind : ∀ k, find? k l = find? k l') : l = l' := by
  have hmem : ∀ e, e ∈ l ↔ e ∈ l' := fun e => by
    rw [← h.find?_eq_some_iff (k := e.1) (a := e.2), hfind e.1, h'.find?_eq_some_iff]
  have hnodup : ∀ {l : List (κ × α)}, Sorted l → l.Nodup := by
    intro l hl
    apply List.Pairwise.imp ?_ hl
    rintro e _ hlt rfl
    exact OrderedKey.irrefl e.1 hlt
  exact ((List.perm_ext_iff_of_nodup (hnodup h) (hnodup h')).mpr hmem).eq_of_pairwise
    (fun e e' _ _ hlt hlt' => absurd (OrderedKey.trans hlt hlt') (OrderedKey.irrefl e.1)) h h'

/-- No key is there twice, so the first entry under a key is the last. -/
theorem last?_eq_find? (h : Sorted l) (k : κ) : last? k l = find? k l := by
  induction l with
  | nil => rfl
  | cons e rest ih =>
    obtain ⟨k', a⟩ := e
    rw [last?_cons, ih h.of_cons, find?_cons]
    by_cases hk : k' = k
    · subst hk
      have hrest : find? k' rest = none := find?_eq_none_iff.mpr fun _ he => h.ne_of_mem he
      rw [hrest, Option.none_or]
    · rw [if_neg hk, if_neg hk, Option.or_none]

/-- An erasure takes away the one entry under its key. -/
theorem perm_erase (h : Sorted l) {k : κ} {a : α} (hk : find? k l = some a) :
    l.Perm ((k, a) :: Assoc.erase k l) := by
  induction l with
  | nil => simp at hk
  | cons e rest ih =>
    obtain ⟨k', b⟩ := e
    rw [find?_cons] at hk
    split at hk
    · next hkk =>
      subst hkk
      cases hk
      rw [erase_cons_self, erase_eq_self fun _ he => h.ne_of_mem he]
    · next hkk =>
      rw [erase_cons_of_ne hkk]
      exact ((ih h.of_cons hk).cons (k', b)).trans (List.Perm.swap ..)

end Sorted

/-- An entry above all others comes last. -/
theorem insert_of_above [DecidableEq κ] [LT κ] [DecidableLT κ] [OrderedKey κ] {k : κ}
    {l : List (κ × α)} (h : ∀ e ∈ l, e.1 < k) (a : α) : insert k a l = l ++ [(k, a)] := by
  induction l with
  | nil => rfl
  | cons e rest ih =>
    obtain ⟨k', a'⟩ := e
    have hlt : k' < k := h (k', a') List.mem_cons_self
    have hne : k' ≠ k := fun hk => OrderedKey.irrefl k (hk ▸ hlt)
    have hnot : ¬ k < k' := fun hk => OrderedKey.irrefl k (OrderedKey.trans hk hlt)
    rw [insert, if_neg hne, if_neg hnot, ih fun e he => h e (List.mem_cons_of_mem _ he)]
    rfl

/-! ### Tables from entries -/

section OfList

variable [DecidableEq κ] [LT κ] [DecidableLT κ]

theorem mem_of_mem_ofList {e : κ × α} {l : List (κ × α)} (h : e ∈ ofList l) : e ∈ l := by
  have hfold : ∀ (l acc : List (κ × α)), e ∈ l.foldl (fun acc e => insert e.1 e.2 acc) acc →
      e ∈ acc ∨ e ∈ l := by
    intro l
    induction l with
    | nil => exact fun acc h => Or.inl h
    | cons e' l ih =>
      intro acc h
      rcases ih _ h with h | h
      · rcases mem_of_mem_insert h with rfl | h
        · exact Or.inr List.mem_cons_self
        · exact Or.inl h
      · exact Or.inr (List.mem_cons_of_mem _ h)
  rcases hfold l [] h with h | h
  · cases h
  · exact h

/-- Entries in order are the table that they make. -/
theorem Sorted.ofList_eq_self [OrderedKey κ] {l : List (κ × α)} (h : Sorted l) : ofList l = l := by
  have hfold : ∀ l acc : List (κ × α), Sorted (acc ++ l) →
      l.foldl (fun acc e => Assoc.insert e.1 e.2 acc) acc = acc ++ l := by
    intro l
    induction l with
    | nil => exact fun acc _ => (List.append_nil acc).symm
    | cons e l ih =>
      intro acc hacc
      have habove : ∀ e' ∈ acc, e'.1 < e.1 := fun e' he' =>
        (List.pairwise_append.mp hacc).2.2 e' he' e List.mem_cons_self
      rw [List.append_cons] at hacc
      rw [List.foldl_cons, insert_of_above habove, ih _ hacc, ← List.append_cons]
  exact hfold l [] h

end OfList

end Assoc
end ScriptBridge
