/-
  ScriptBridge/Proofs/Handle/Lifetime.lean
  ========================================
  **When a handle resolves.**

  A handle resolves from its adoption on.  It goes when it is released, when its
  scope ends and it has no pin, or when it loses its last pin after that.  So a
  handle resolves now exactly if it was not released and had pins at every moment
  at which its scope was no longer open.

  `told_run` is this law for one adoption, by induction on what happened since:
  each operation changes the entry and the account in the same way.  That entries
  come from adoptions, each handle from one only, makes it a law of all tables.
-/
import ScriptBridge.Proofs.Handle.History

namespace ScriptBridge

/-! ### How many handles a closed scope drops -/

namespace HandleTable

variable {α : Type} {t : HandleTable α}

theorem afterScope_eq_none_iff (token : ScopeToken) (e : HandleEntry α) :
    e.afterScope token = none ↔ ¬ (e.scope < token.depth ∨ 0 < e.pins) := by
  unfold HandleEntry.afterScope
  by_cases hs : e.scope < token.depth
  · simp [hs]
  · by_cases hp : 0 < e.pins <;> simp [hs, hp]

/-- A closed scope returns the number of the handles that it drops. -/
theorem exists_dropped (ht : t.Sorted) (token : ScopeToken) :
    ∃ dropped : List ObjectHandle, dropped.Nodup ∧
      (∀ h, h ∈ dropped ↔ (t.find? h).isSome ∧ (t.closeScope token).2.find? h = none) ∧
      (t.closeScope token).1 = dropped.length := by
  let stays := fun e : ObjectHandle × HandleEntry α =>
    decide (e.2.scope < token.depth) || decide (0 < e.2.pins)
  have hscope : ∀ e : HandleEntry α, (endScope token e).scope = e.scope := fun e => by
    unfold endScope
    split <;> rfl
  have hpins : ∀ e : HandleEntry α, (endScope token e).pins = e.pins := fun e => by
    unfold endScope
    split <;> rfl
  refine ⟨(t.entries.filter fun e => !stays e).map Prod.fst, ?_, ?_, ?_⟩
  · have hkeys : (t.entries.map Prod.fst).Nodup :=
      List.pairwise_map.mpr (ht.imp fun {a b} hlt (heq : a.1 = b.1) =>
        OrderedKey.irrefl b.1 (heq ▸ hlt))
    exact hkeys.sublist (List.filter_sublist.map Prod.fst)
  · intro h
    rw [isSome_find?, find?_eq_none_iff, get?_closeScope ht]
    constructor
    · intro hmem
      obtain ⟨⟨k, e⟩, he, rfl⟩ := List.mem_map.mp hmem
      obtain ⟨he, hgone⟩ := List.mem_filter.mp he
      have hget : t.get? k = some e := ht.find?_eq_some_iff.mpr he
      refine ⟨by rw [hget]; rfl, ?_⟩
      rw [hget, Option.bind_some, afterScope_eq_none_iff]
      simpa [stays] using hgone
    · rintro ⟨hsome, hnone⟩
      obtain ⟨e, hget⟩ := Option.isSome_iff_exists.mp hsome
      rw [hget, Option.bind_some, afterScope_eq_none_iff] at hnone
      refine List.mem_map.mpr ⟨(h, e), List.mem_filter.mpr ⟨ht.find?_eq_some_iff.mp hget, ?_⟩, rfl⟩
      simpa [stays] using hnone
  · have hkept : ((t.entries.map fun e => (e.1, endScope token e.2)).filter fun e =>
        decide (e.2.scope < token.depth) || decide (0 < e.2.pins)).length =
          t.entries.countP stays := by
      rw [← List.countP_eq_length_filter, List.countP_map]
      exact List.countP_congr fun e _ => by simp [stays, hscope, hpins]
    have hsplit := List.length_eq_countP_add_countP stays (l := t.entries)
    have hdropped : ((t.entries.filter fun e => !stays e).map Prod.fst).length =
        t.entries.countP fun e => ¬ stays e = true := by
      rw [List.length_map, ← List.countP_eq_length_filter]
      exact List.countP_congr fun e _ => by simp
    show t.entries.length - _ = _
    rw [hkept, hdropped]
    omega

end HandleTable

/-- An entry of a later table was there before, or its handle is the one that was minted. -/
theorem TableOp.isSome_of_onTable {α : Type} {t : HandleTable α} (ht : t.Sorted) {next : Nat}
    {tokens : List ScopeToken} {op : TableOp α} {h : ObjectHandle}
    (hsome : ((op.onTable next tokens t).get? h).isSome) :
    (t.get? h).isSome ∨ ∃ o, op = .adopt o ∧ h = ⟨next⟩ := by
  obtain ⟨e', he'⟩ := Option.isSome_iff_exists.mp hsome
  have hcarry : t.Descends (op.onTable next tokens t) → (t.get? h).isSome := fun hd => by
    obtain ⟨e, he, _⟩ := hd h e' he'
    exact Option.isSome_iff_exists.mpr ⟨e, he⟩
  cases op with
  | openScope => exact Or.inl hsome
  | closeScope n =>
    refine Or.inl (hcarry ?_)
    simp only [onTable]
    split
    · intro k e hk
      obtain ⟨e₀, he₀, hscope, hclosed, _⟩ := HandleTable.Descends.closeScope ht _ hk
      exact ⟨e₀, he₀, hscope, hclosed⟩
    · exact .refl t
  | adopt o =>
    rcases HandleTable.get?_adopt_eq_some he' with ⟨rfl, _⟩ | he
    · exact Or.inr ⟨o, rfl, rfl⟩
    · exact Or.inl (Option.isSome_iff_exists.mpr ⟨e', he⟩)
  | retain k => exact Or.inl (hcarry (.retain t k))
  | unpin k => exact Or.inl (hcarry (.unpinAll t [k]))
  | release k => exact Or.inl (hcarry (.release t k))

namespace TableHistory

variable {ι α : Type} [DecidableEq ι] {i : ι} {h : ObjectHandle} {o : α} {start : Nat}
  {later earlier past : TableHistory ι α}

/-! ### What a handle is owed -/

/-- The scope that was the innermost one of a table at an earlier moment is not open any more. -/
def Ended (i : ι) (earlier now : TableHistory ι α) : Prop :=
  ∃ scope, (openScopes i earlier).head? = some scope ∧ scope ∉ openScopes i now

/-- Since its adoption the handle was not released, and it had pins whenever its scope had ended. -/
structure Kept (i : ι) (h : ObjectHandle) (o : α) (later earlier : TableHistory ι α) : Prop where
  unreleased : (i, .release h) ∉ later
  pinned : ∀ m, m <:+ later → Ended i earlier (m ++ (i, .adopt o) :: earlier) → 0 < pins i h m

theorem Kept.cons_iff {x : ι × TableOp α} :
    Kept i h o (x :: later) earlier ↔
      Kept i h o later earlier ∧ x ≠ (i, .release h) ∧
        (Ended i earlier (x :: later ++ (i, .adopt o) :: earlier) → 0 < pins i h (x :: later)) := by
  constructor
  · intro hk
    refine ⟨⟨fun hmem => hk.unreleased (List.mem_cons_of_mem _ hmem), fun m hm => ?_⟩, ?_, ?_⟩
    · exact hk.pinned m (hm.trans (List.suffix_cons x later))
    · exact fun hx => hk.unreleased (hx ▸ List.mem_cons_self)
    · exact hk.pinned _ List.suffix_rfl
  · rintro ⟨hk, hx, hnow⟩
    refine ⟨fun hmem => ?_, fun m hm => ?_⟩
    · rcases List.mem_cons.mp hmem with heq | hmem
      · exact hx heq.symm
      · exact hk.unreleased hmem
    · rcases List.suffix_cons_iff.mp hm with rfl | hm
      · exact hnow
      · exact hk.pinned m hm

theorem pins_cons_self (i : ι) (h : ObjectHandle) (op : TableOp α) (later : TableHistory ι α) :
    pins i h ((i, op) :: later) = op.pinsAfter h (pins i h later) := if_pos rfl

/-! ### Scopes as time goes on -/

/-- A scope that was opened stays open unless its table closes it or an older one. -/
theorem mem_openScopes_cons {n : Nat} (hn : n < opened past) (x : ι × TableOp α) :
    n ∈ openScopes i (x :: past) ↔
      n ∈ openScopes i past ∧ ∀ m, x = (i, .closeScope m) → n < m := by
  obtain ⟨j, op⟩ := x
  by_cases hj : j = i
  · subst hj
    rw [openScopes_cons_self]
    cases op with
    | openScope =>
      have hne : n ≠ opened past := Nat.ne_of_lt hn
      simp [TableOp.scopesAfter, hne]
    | closeScope m => simp [TableOp.scopesAfter]
    | _ => simp [TableOp.scopesAfter]
  · rw [openScopes_cons_of_ne hj]
    simp [hj]

/-- The innermost scope of a moment is numbered, and its token is the number of open scopes. -/
theorem innermost (start : Nat) (hlawful : past.Lawful) (hs : earlier <:+ past) {scope : Nat}
    (hscope : (openScopes i earlier).head? = some scope) :
    scope < opened past ∧
      (run start past).tokens[scope]? = some ⟨(openScopes i earlier).length⟩ := by
  have hstack := stacked_run start (hlawful.of_suffix hs) i
  have hmem : scope ∈ openScopes i earlier := List.mem_of_mem_head? hscope
  refine ⟨Nat.lt_of_lt_of_le (hstack.numbered scope hmem) (opened_le_of_suffix hs), ?_⟩
  have hall : (openScopes i earlier).countP (· ≤ scope) = (openScopes i earlier).length := by
    obtain ⟨rest, hrest⟩ := List.head?_eq_some_iff.mp hscope
    have hfalling := hstack.falling
    rw [hrest] at hfalling ⊢
    refine List.countP_eq_length.mpr fun n hn => decide_eq_true ?_
    rcases List.mem_cons.mp hn with rfl | hn
    · exact Nat.le_refl n
    · exact Nat.le_of_lt (List.rel_of_pairwise_cons hfalling hn)
  obtain ⟨more, hmore⟩ := tokens_run_prefix start hs
  have htoken := hstack.token scope hmem
  rw [hall] at htoken
  rw [← hmore, List.getElem?_append_left (List.getElem?_eq_some_iff.mp htoken).1, htoken]

/-- Anything but the closing of a scope of the table ends none of its scopes. -/
theorem ended_cons_iff (hlawful : past.Lawful) (hs : earlier <:+ past) {x : ι × TableOp α}
    (hx : ∀ n, x ≠ (i, .closeScope n)) : Ended i earlier (x :: past) ↔ Ended i earlier past := by
  unfold Ended
  refine exists_congr fun scope => and_congr_right fun hscope => not_congr ?_
  rw [mem_openScopes_cons (innermost 0 hlawful hs hscope).1]
  exact and_iff_left fun n hn => absurd hn (hx n)

/-- A closed scope ends those that are as deep as it. -/
theorem ended_closeScope_iff (start : Nat) (hlawful : past.Lawful) (hs : earlier <:+ past) {n : Nat}
    {token : ScopeToken} (hn : n ∈ openScopes i past)
    (htoken : (run start past).tokens[n]? = some token) :
    Ended i earlier ((i, .closeScope n) :: past) ↔
      Ended i earlier past ∨ token.depth ≤ (openScopes i earlier).length := by
  have hstack := stacked_run start hlawful i
  obtain rfl : (⟨_⟩ : ScopeToken) = token := Option.some.inj ((hstack.token n hn).symm.trans htoken)
  unfold Ended
  cases hhead : (openScopes i earlier).head? with
  | none =>
    have hpos := hstack.countP_le hn
    simp [List.head?_eq_none_iff.mp hhead, hpos]
  | some scope =>
    obtain ⟨hnumber, hdepth⟩ := innermost start hlawful hs hhead
    have hclosed : scope ∈ openScopes i ((i, .closeScope n) :: past) ↔
        scope ∈ openScopes i past ∧ scope < n := by
      rw [mem_openScopes_cons hnumber]
      simp
    simp only [Option.some.injEq, exists_eq_left', hclosed]
    by_cases hopen : scope ∈ openScopes i past
    · -- both scopes are open, and their depths are in the order of their numbers
      have hlength := hstack.token scope hopen
      rw [hdepth, Option.some.injEq, ScopeToken.mk.injEq] at hlength
      have horder := hstack.countP_lt_iff (m := scope) hn
      simp only [hopen, true_and, not_true_eq_false, false_or, hlength]
      omega
    · simp [hopen]

/-! ### One adoption -/

/-- The entry of an adopted handle is what the history since says. -/
def Told (i : ι) (h : ObjectHandle) (o : α) (later earlier : TableHistory ι α)
    (entry : Option (HandleEntry α)) : Prop :=
  (Kept i h o later earlier ∧ ∃ closed,
      entry = some ⟨o, (openScopes i earlier).length, pins i h later, closed⟩ ∧
      (closed = true ↔ Ended i earlier (later ++ (i, .adopt o) :: earlier))) ∨
    (¬ Kept i h o later earlier ∧ entry = none)

namespace Told

variable {entry : Option (HandleEntry α)} {x : ι × TableOp α}

/-- A handle that is not kept is gone for good. -/
theorem gone (hkept : ¬ Kept i h o later earlier) : Told i h o (x :: later) earlier none :=
  Or.inr ⟨fun hk => hkept (Kept.cons_iff.mp hk).1, rfl⟩

/-- What changes neither pins nor scopes leaves the entry alone. -/
theorem unchanged (ht : Told i h o later earlier entry) (hx : x ≠ (i, .release h))
    (hpins : pins i h (x :: later) = pins i h later)
    (hended : Ended i earlier (x :: (later ++ (i, .adopt o) :: earlier)) ↔
      Ended i earlier (later ++ (i, .adopt o) :: earlier)) :
    Told i h o (x :: later) earlier entry := by
  rcases ht with ⟨hk, closed, hentry, hclosed⟩ | ⟨hkept, rfl⟩
  · refine Or.inl ⟨Kept.cons_iff.mpr ⟨hk, hx, fun hend => ?_⟩, closed, ?_, ?_⟩
    · rw [hpins]
      exact hk.pinned later List.suffix_rfl (hended.mp hend)
    · rw [hentry, hpins]
    · exact hclosed.trans hended.symm
  · exact gone hkept

theorem retain (ht : Told i h o later earlier entry)
    (hended : Ended i earlier ((i, .retain h) :: (later ++ (i, .adopt o) :: earlier)) ↔
      Ended i earlier (later ++ (i, .adopt o) :: earlier)) :
    Told i h o ((i, .retain h) :: later) earlier (entry.map (HandleEntry.addPins 1)) := by
  have hpins : pins i h ((i, .retain h) :: later) = pins i h later + 1 := by
    rw [pins_cons_self, TableOp.pinsAfter, if_pos rfl]
  rcases ht with ⟨hk, closed, rfl, hclosed⟩ | ⟨hkept, rfl⟩
  · refine Or.inl ⟨Kept.cons_iff.mpr ⟨hk, by simp, fun _ => ?_⟩, closed, ?_, ?_⟩
    · rw [hpins]
      exact Nat.succ_pos _
    · rw [hpins]
      rfl
    · exact hclosed.trans hended.symm
  · exact gone hkept

/-- The last pin of a handle goes with the handle if its scope has ended. -/
theorem unpin (ht : Told i h o later earlier entry)
    (hended : Ended i earlier ((i, .unpin h) :: (later ++ (i, .adopt o) :: earlier)) ↔
      Ended i earlier (later ++ (i, .adopt o) :: earlier)) :
    Told i h o ((i, .unpin h) :: later) earlier (entry.bind (HandleEntry.dropPins 1)) := by
  have hpins : pins i h ((i, .unpin h) :: later) = pins i h later - 1 := by
    rw [pins_cons_self, TableOp.pinsAfter, if_pos rfl]
  rcases ht with ⟨hk, closed, rfl, hclosed⟩ | ⟨hkept, rfl⟩
  · rw [Option.bind_some, HandleEntry.dropPins]
    by_cases hlast : pins i h later ≤ 1 ∧ closed = true
    · rw [if_pos ⟨Nat.one_pos, hlast⟩]
      refine Or.inr ⟨fun hk' => ?_, rfl⟩
      have hpos := (Kept.cons_iff.mp hk').2.2 (hended.mpr (hclosed.mp hlast.2))
      rw [hpins] at hpos
      omega
    · rw [if_neg fun hgone => hlast hgone.2]
      refine Or.inl ⟨Kept.cons_iff.mpr ⟨hk, by simp, fun hend => ?_⟩, closed, ?_, ?_⟩
      · have hmore : ¬ pins i h later ≤ 1 := fun hle => hlast ⟨hle, hclosed.mpr (hended.mp hend)⟩
        rw [hpins]
        omega
      · rw [hpins]
      · exact hclosed.trans hended.symm
  · exact gone hkept

theorem release (later earlier : TableHistory ι α) :
    Told i h o ((i, .release h) :: later) earlier none :=
  Or.inr ⟨fun hk => hk.unreleased List.mem_cons_self, rfl⟩

/-- The end of a scope is the end of an adoption in it or in a scope inside it, unless it has pins. -/
theorem closeScope (ht : Told i h o later earlier entry) {n : Nat} {token : ScopeToken}
    (hended : Ended i earlier ((i, .closeScope n) :: (later ++ (i, .adopt o) :: earlier)) ↔
      Ended i earlier (later ++ (i, .adopt o) :: earlier) ∨
        token.depth ≤ (openScopes i earlier).length) :
    Told i h o ((i, .closeScope n) :: later) earlier
      (entry.bind (HandleEntry.afterScope token)) := by
  have hpins : pins i h ((i, .closeScope n) :: later) = pins i h later := pins_cons_self ..
  rcases ht with ⟨hk, closed, rfl, hclosed⟩ | ⟨hkept, rfl⟩
  · rw [Option.bind_some, HandleEntry.afterScope]
    by_cases houter : (openScopes i earlier).length < token.depth
    · rw [if_pos houter]
      have hsame := hended.trans (or_iff_left (Nat.not_le_of_gt houter))
      exact unchanged (Or.inl ⟨hk, closed, rfl, hclosed⟩) (by simp) hpins hsame
    · rw [if_neg houter]
      have hend := hended.mpr (Or.inr (Nat.le_of_not_lt houter))
      by_cases hp : 0 < pins i h later
      · rw [if_pos hp]
        refine Or.inl ⟨Kept.cons_iff.mpr ⟨hk, by simp, fun _ => hpins ▸ hp⟩, true, ?_, ?_⟩
        · rw [hpins]
        · exact iff_of_true rfl hend
      · rw [if_neg hp]
        exact Or.inr ⟨fun hk' => hp (hpins ▸ (Kept.cons_iff.mp hk').2.2 hend), rfl⟩
  · exact gone hkept

end Told

/-- The law of one adoption. -/
theorem told_run (start : Nat) (later : TableHistory ι α)
    (hlawful : Lawful (later ++ (i, .adopt o) :: earlier)) :
    Told i ⟨start + minted earlier⟩ o later earlier
      (((run start (later ++ (i, .adopt o) :: earlier)).tables i).get? ⟨start + minted earlier⟩) := by
  induction later with
  | nil =>
    have hopen : ¬ Ended i earlier ((i, .adopt o) :: earlier) := by
      rintro ⟨scope, hscope, hgone⟩
      rw [openScopes_cons_self] at hgone
      exact hgone (List.mem_of_mem_head? hscope)
    refine Or.inl ⟨⟨List.not_mem_nil, fun m hm hend => ?_⟩, false, ?_, ?_⟩
    · rw [List.suffix_nil.mp hm] at hend
      exact absurd hend hopen
    · have hdepth := (stacked_run start hlawful.2 i).depth
      rw [List.nil_append, run, TableGroup.tables_step_self, next_run, hdepth]
      exact HandleTable.get?_adopt_self _ _ o
    · exact iff_of_false Bool.false_ne_true hopen
  | cons x later ih =>
    have hlater : Lawful (later ++ (i, .adopt o) :: earlier) := hlawful.2
    have hold := ih hlater
    obtain ⟨j, op⟩ := x
    have hs : earlier <:+ later ++ (i, .adopt o) :: earlier := ⟨later ++ [(i, .adopt o)], by simp⟩
    -- only the closing of a scope of this table changes which scopes have ended
    have hended : (∀ n, (j, op) ≠ (i, .closeScope n)) →
        (Ended i earlier ((j, op) :: (later ++ (i, .adopt o) :: earlier)) ↔
          Ended i earlier (later ++ (i, .adopt o) :: earlier)) :=
      ended_cons_iff hlater hs
    by_cases hj : j = i
    · subst hj
      rw [List.cons_append, run, TableGroup.tables_step_self]
      cases op with
      | openScope => exact hold.unchanged (by simp) (pins_cons_self ..) (hended (by simp))
      | closeScope n =>
        have hn : n ∈ openScopes j (later ++ (j, .adopt o) :: earlier) := hlawful.1 n rfl
        have htoken := (stacked_run start hlater j).token n hn
        rw [TableOp.onTable_closeScope htoken, HandleTable.get?_closeScope (sorted_run start _ j)]
        exact hold.closeScope (ended_closeScope_iff start hlater hs hn htoken)
      | adopt o' =>
        have hne : (⟨(run start (later ++ (j, .adopt o) :: earlier)).next⟩ : ObjectHandle) ≠
            ⟨start + minted earlier⟩ := fun heq => by
          have hnumber := congrArg ObjectHandle.number heq
          have hle := minted_le_of_suffix (List.suffix_append later ((j, .adopt o) :: earlier))
          simp only [next_run, minted, TableOp.mints] at hnumber hle
          omega
        rw [TableOp.onTable, HandleTable.get?_adopt_of_ne hne]
        exact hold.unchanged (by simp) (pins_cons_self ..) (hended (by simp))
      | retain k =>
        rw [TableOp.onTable, HandleTable.get?_retain]
        split
        · next hk =>
          subst hk
          exact hold.retain (hended (by simp))
        · next hk =>
          refine hold.unchanged (by simp) ?_ (hended (by simp))
          rw [pins_cons_self, TableOp.pinsAfter, if_neg hk]
      | unpin k =>
        rw [TableOp.onTable, HandleTable.get?_unpin]
        split
        · next hk =>
          subst hk
          exact hold.unpin (hended (by simp))
        · next hk =>
          refine hold.unchanged (by simp) ?_ (hended (by simp))
          rw [pins_cons_self, TableOp.pinsAfter, if_neg hk]
      | release k =>
        rw [TableOp.onTable, HandleTable.get?_release]
        split
        · next hk =>
          subst hk
          exact Told.release later earlier
        · next hk =>
          refine hold.unchanged (fun heq => hk ?_) (pins_cons_self ..) (hended (by simp))
          simpa using heq
    · have hother : ∀ y, (j, op) ≠ (i, y) := fun y heq => hj (Prod.mk.inj heq).1
      rw [List.cons_append, run, TableGroup.tables_step_of_ne (Ne.symm hj)]
      exact hold.unchanged (hother _) (if_neg hj) (hended fun n => hother _)

/-! ### All adoptions -/

/-- Every entry comes from an adoption. -/
theorem exists_adoption {past : TableHistory ι α} (hsome : (((run start past).tables i).get? h).isSome) :
    ∃ later o earlier, past = later ++ (i, .adopt o) :: earlier ∧ h = ⟨start + minted earlier⟩ := by
  induction past with
  | nil => cases hsome
  | cons x past ih =>
    obtain ⟨j, op⟩ := x
    have hearlier : (((run start past).tables i).get? h).isSome →
        ∃ later o earlier, (j, op) :: past = later ++ (i, .adopt o) :: earlier ∧
          h = ⟨start + minted earlier⟩ := fun hpast => by
      obtain ⟨later, o, earlier, rfl, hh⟩ := ih hpast
      exact ⟨(j, op) :: later, o, earlier, rfl, hh⟩
    by_cases hj : j = i
    · subst hj
      rw [run, TableGroup.tables_step_self] at hsome
      rcases TableOp.isSome_of_onTable (sorted_run start past j) hsome with hpast | ⟨o, rfl, hh⟩
      · exact hearlier hpast
      · exact ⟨[], o, past, rfl, by rw [hh, next_run]⟩
    · rw [run, TableGroup.tables_step_of_ne (Ne.symm hj)] at hsome
      exact hearlier hsome

omit [DecidableEq ι] in
/-- Two adoptions mint the same handle only if they are the same one. -/
theorem adoption_unique {j : ι} {o' : α} {later' earlier' : TableHistory ι α}
    (hsame : later ++ (i, .adopt o) :: earlier = later' ++ (j, .adopt o') :: earlier')
    (hminted : minted earlier = minted earlier') :
    later = later' ∧ i = j ∧ o = o' ∧ earlier = earlier' := by
  -- An adoption that lies in the past of another one mints a smaller number.
  have hapart : ∀ {k : ι} {p : α} {first second between : TableHistory ι α},
      first = between ++ (k, .adopt p) :: second → minted second < minted first := by
    rintro k p first second between rfl
    exact minted_le_of_suffix (List.suffix_append between ((k, .adopt p) :: second))
  rcases List.append_eq_append_iff.mp hsame with ⟨between, rfl, hrest⟩ | ⟨between, rfl, hrest⟩
  · cases between with
    | nil =>
      obtain ⟨hx, rfl⟩ := List.cons.inj hrest
      cases hx
      exact ⟨(List.append_nil later).symm, rfl, rfl, rfl⟩
    | cons x between =>
      have hlt := hapart (List.cons.inj hrest).2
      omega
  · cases between with
    | nil =>
      obtain ⟨hx, rfl⟩ := List.cons.inj hrest
      cases hx
      exact ⟨List.append_nil later', rfl, rfl, rfl⟩
    | cons x between =>
      have hlt := hapart (List.cons.inj hrest).2
      omega

/-- The entry of a handle, and the adoption that it comes from. -/
theorem kept_of_entry (hlawful : past.Lawful) {e : HandleEntry α}
    (he : ((run start past).tables i).get? h = some e) :
    ∃ later earlier, past = later ++ (i, .adopt e.object) :: earlier ∧
      h = ⟨start + minted earlier⟩ ∧ Kept i h e.object later earlier ∧ e.pins = pins i h later ∧
      (e.closed = true ↔ Ended i earlier past) := by
  obtain ⟨later, o, earlier, rfl, rfl⟩ := exists_adoption (Option.isSome_iff_exists.mpr ⟨e, he⟩)
  rcases told_run start later hlawful with ⟨hk, closed, hentry, hclosed⟩ | ⟨_, hnone⟩
  · cases he.symm.trans hentry
    exact ⟨later, earlier, rfl, rfl, hk, rfl, hclosed⟩
  · cases he.symm.trans hnone

theorem find?_of_kept (start : Nat) (hlawful : Lawful (later ++ (i, .adopt o) :: earlier))
    (hk : Kept i ⟨start + minted earlier⟩ o later earlier) :
    ((run start (later ++ (i, .adopt o) :: earlier)).tables i).find? ⟨start + minted earlier⟩ =
      some o := by
  rcases told_run start later hlawful with ⟨_, closed, hentry, _⟩ | ⟨hnot, _⟩
  · rw [HandleTable.find?, hentry]
    rfl
  · exact absurd hk hnot

/-- A minted handle that does not resolve never resolves again. -/
theorem find?_eq_none_of_suffix (hs : earlier <:+ past) (hminted : h.number < (run start earlier).next)
    (hnone : ((run start earlier).tables i).find? h = none) :
    ((run start past).tables i).find? h = none := by
  obtain ⟨later, rfl⟩ := hs
  induction later with
  | nil => exact hnone
  | cons x later ih =>
    obtain ⟨j, op⟩ := x
    by_cases hj : j = i
    · subst hj
      rw [List.cons_append, run, TableGroup.tables_step_self]
      rw [← Option.not_isSome_iff_eq_none, HandleTable.isSome_find?]
      intro hsome
      rcases TableOp.isSome_of_onTable (sorted_run start _ j) hsome with hold | ⟨o, _, rfl⟩
      · rw [← HandleTable.isSome_find?, ih] at hold
        cases hold
      · have hle := minted_le_of_suffix (List.suffix_append later earlier)
        simp only [next_run] at hminted
        omega
    · rw [List.cons_append, run, TableGroup.tables_step_of_ne (Ne.symm hj)]
      exact ih

/-- The handles of several tables that mint from one counter, after any lawful history.  A handle
    resolves in a table exactly if it was adopted there, was not released since, and had pins at every
    moment since at which the scope of its adoption had ended; an adoption outside any scope has none
    that could end.  It resolves in no other table.  A handle that is still to be minted has never
    resolved, and one that is gone stays gone.  A scope that is closed returns the number of handles
    that stop resolving.  The pins of an entry are those of its history, and an entry that is marked
    closed has one at least, so without open scopes a handle is pinned or was adopted outside any. -/
theorem handle_lifetime (start : Nat) (past : TableHistory ι α) (hlawful : past.Lawful) :
    let g := run start past
    (∀ i h o, (g.tables i).find? h = some o ↔
      ∃ later earlier, past = later ++ (i, .adopt o) :: earlier ∧ h = ⟨start + minted earlier⟩ ∧
        (i, .release h) ∉ later ∧
        ∀ m, m <:+ later → Ended i earlier (m ++ (i, .adopt o) :: earlier) → 0 < pins i h m) ∧
    (∀ i j o later earlier, past = later ++ (i, .adopt o) :: earlier → j ≠ i →
      (g.tables j).find? ⟨start + minted earlier⟩ = none) ∧
    (∀ earlier, earlier <:+ past → ∀ i, ((run start earlier).tables i).find? ⟨g.next⟩ = none) ∧
    (∀ earlier, earlier <:+ past → ∀ i h, h.number < (run start earlier).next →
      ((run start earlier).tables i).find? h = none → (g.tables i).find? h = none) ∧
    (∀ i n, n ∈ openScopes i past → ∃ token, g.tokens[n]? = some token ∧
      ∃ dropped : List ObjectHandle, dropped.Nodup ∧
        (∀ h, h ∈ dropped ↔ ((g.tables i).find? h).isSome ∧
          ((run start ((i, .closeScope n) :: past)).tables i).find? h = none) ∧
        ((g.tables i).closeScope token).1 = dropped.length) ∧
    (∀ i h e, (g.tables i).get? h = some e → (e.closed = true → 0 < e.pins) ∧
      ∀ later earlier, past = later ++ (i, .adopt e.object) :: earlier →
        h = ⟨start + minted earlier⟩ → e.pins = pins i h later) ∧
    (∀ i, openScopes i past = [] → ∀ h e, (g.tables i).get? h = some e →
      0 < e.pins ∨ ∃ later earlier, past = later ++ (i, .adopt e.object) :: earlier ∧
        h = ⟨start + minted earlier⟩ ∧ openScopes i earlier = []) := by
  intro g
  have hresolves : ∀ i h o, (g.tables i).find? h = some o ↔
      ∃ later earlier, past = later ++ (i, .adopt o) :: earlier ∧ h = ⟨start + minted earlier⟩ ∧
        (i, .release h) ∉ later ∧
        ∀ m, m <:+ later → Ended i earlier (m ++ (i, .adopt o) :: earlier) → 0 < pins i h m := by
    intro i h o
    constructor
    · intro hfind
      obtain ⟨e, he, rfl⟩ := Option.map_eq_some_iff.mp hfind
      obtain ⟨later, earlier, hpast, hh, hk, _⟩ := kept_of_entry hlawful he
      exact ⟨later, earlier, hpast, hh, hk.unreleased, hk.pinned⟩
    · rintro ⟨later, earlier, rfl, rfl, hunreleased, hpinned⟩
      exact find?_of_kept start hlawful ⟨hunreleased, hpinned⟩
  have hclosed : ∀ i h e, (g.tables i).get? h = some e → e.closed = true → 0 < e.pins := by
    intro i h e he hc
    obtain ⟨later, earlier, rfl, _, hk, hpins, hend⟩ := kept_of_entry hlawful he
    rw [hpins]
    exact hk.pinned later List.suffix_rfl (hend.mp hc)
  refine ⟨hresolves, ?_, ?_, ?_, ?_, ?_, ?_⟩
  · intro i j o later earlier hpast hj
    rw [Option.eq_none_iff_forall_not_mem]
    intro o' hfind
    obtain ⟨later', earlier', hpast', hh, _⟩ := (hresolves j _ o').mp hfind
    have hnumber : start + minted earlier = start + minted earlier' := congrArg ObjectHandle.number hh
    obtain ⟨_, hij, _⟩ := adoption_unique (hpast.symm.trans hpast') (Nat.add_left_cancel hnumber)
    exact hj hij.symm
  · intro earlier hs i
    rw [← Option.not_isSome_iff_eq_none, HandleTable.isSome_find?]
    intro hsome
    obtain ⟨later, o, first, rfl, hh⟩ := exists_adoption hsome
    have hnumber : g.next = start + minted first := congrArg ObjectHandle.number hh
    have hnext : g.next = start + minted past := next_run start past
    have hlt : minted first < minted past :=
      minted_le_of_suffix ((List.suffix_append later ((i, .adopt o) :: first)).trans hs)
    omega
  · intro earlier hs i h hminted hnone
    exact find?_eq_none_of_suffix hs hminted hnone
  · intro i n hn
    have htoken := (stacked_run start hlawful i).token n hn
    refine ⟨_, htoken, ?_⟩
    rw [run, TableGroup.tables_step_self, TableOp.onTable_closeScope htoken]
    exact HandleTable.exists_dropped (sorted_run start past i) _
  · intro i h e he
    refine ⟨hclosed i h e he, ?_⟩
    rintro later earlier hpast rfl
    obtain ⟨later', earlier', hpast', hh, _, hpins, _⟩ := kept_of_entry hlawful he
    have hnumber : start + minted earlier = start + minted earlier' := congrArg ObjectHandle.number hh
    obtain ⟨rfl, _⟩ := adoption_unique (hpast.symm.trans hpast') (Nat.add_left_cancel hnumber)
    exact hpins
  · intro i hnone h e he
    obtain ⟨later, earlier, hpast, hh, _, _, hend⟩ := kept_of_entry hlawful he
    cases hhead : (openScopes i earlier).head? with
    | none => exact Or.inr ⟨later, earlier, hpast, hh, List.head?_eq_none_iff.mp hhead⟩
    | some scope =>
      have hgone : scope ∉ openScopes i past := by
        rw [hnone]
        exact List.not_mem_nil
      exact Or.inl (hclosed i h e he (hend.mpr ⟨scope, hhead, hgone⟩))

/-- Two tables; in the first one an inner scope is abandoned with a pinned handle in it. -/
def abandonedScope : TableHistory Bool String :=
  [(true, .closeScope 0), (false, .adopt "c"), (true, .retain ⟨2⟩), (true, .adopt "b"),
    (false, .openScope), (true, .openScope), (true, .adopt "a"), (true, .openScope)]

/-- The pinned handle is all that is left of the two scopes, and it had a pin ever since they ended. -/
theorem handle_lifetime_abandonedScope :
    let g := run 1 abandonedScope
    abandonedScope.Lawful ∧ openScopes true abandonedScope = [] ∧
    (g.tables true).find? ⟨1⟩ = none ∧ (g.tables true).find? ⟨2⟩ = some "b" ∧
    (∃ later earlier, abandonedScope = later ++ (true, .adopt "b") :: earlier ∧
      (⟨2⟩ : ObjectHandle) = ⟨1 + minted earlier⟩ ∧ (true, .release ⟨2⟩) ∉ later ∧
      ∀ m, m <:+ later → Ended true earlier (m ++ (true, .adopt "b") :: earlier) →
        0 < pins true ⟨2⟩ m) ∧
    (g.tables true).find? ⟨3⟩ = none ∧ (g.tables false).find? ⟨3⟩ = some "c" := by
  intro g
  have hlawful : abandonedScope.Lawful := by
    refine ⟨fun n hn => ?_, nofun, nofun, nofun, nofun, nofun, nofun, nofun, trivial⟩
    cases hn
    decide
  obtain ⟨hresolves, hother, _⟩ := handle_lifetime 1 abandonedScope hlawful
  refine ⟨hlawful, rfl, rfl, rfl, (hresolves true ⟨2⟩ "b").mp rfl, ?_, rfl⟩
  exact hother false true "c" [(true, .closeScope 0)] _ rfl nofun

end TableHistory
end ScriptBridge
