/-
  ScriptBridge/Proofs/Handle/History.lean
  =======================================
  **Several handle tables of one process, and all that was done to them.**

  The tables of a process mint their handles from one counter.  A history lists
  what was done to which table, the latest first, so that the histories of all
  earlier moments are its suffixes.  What a handle is owed is read off a history
  without looking at any table: which scopes are open, how many handles were
  minted, how often a handle was pinned since.

  Scopes are known by their numbers in the order of opening.  A table knows no
  numbers, it only counts how deep its scopes are; a token is the depth that its
  scope had when it was opened.  `Stacked` is the relation between the two: the
  depth of an open scope is the number of open scopes that are not newer.
-/
import ScriptBridge.Proofs.Handle.Lookup

namespace ScriptBridge

/-- Something that is done to a handle table. -/
inductive TableOp (α : Type) where
  | openScope
  /-- Closes the scope of a number, with the token that its opening returned. -/
  | closeScope (scope : Nat)
  | adopt (object : α)
  | retain (handle : ObjectHandle)
  | unpin (handle : ObjectHandle)
  | release (handle : ObjectHandle)

/-- The handle tables of a process. -/
structure TableGroup (ι α : Type) where
  tables : ι → HandleTable α
  /-- The number of the next handle. -/
  next : Nat
  /-- The tokens of all scopes, in the order of opening. -/
  tokens : List ScopeToken

/-! ### One operation -/

namespace TableOp

variable {α : Type}

/-- The table after the operation, when handles and tokens were given out so far. -/
def onTable (next : Nat) (tokens : List ScopeToken) (t : HandleTable α) : TableOp α → HandleTable α
  | .openScope => t.openScope.2
  | .closeScope n =>
    match tokens[n]? with
    | some token => (t.closeScope token).2
    | none => t
  | .adopt o => t.adopt ⟨next⟩ o
  | .retain h => (t.retain h).2
  | .unpin h => t.unpin h
  | .release h => (t.release h).2

/-- The token that the operation gives out, if it is an opening. -/
def issued (t : HandleTable α) : TableOp α → List ScopeToken
  | .openScope => [t.openScope.1]
  | _ => []

/-- How many handles the operation mints. -/
def mints : TableOp α → Nat
  | .adopt _ => 1
  | _ => 0

/-- How many scopes the operation opens. -/
def opens : TableOp α → Nat
  | .openScope => 1
  | _ => 0

/-- The open scopes of the table after the operation, when a new scope gets the given number. -/
def scopesAfter (number : Nat) (scopes : List Nat) : TableOp α → List Nat
  | .openScope => number :: scopes
  -- a scope takes the scopes opened after it with it
  | .closeScope n => scopes.filter (· < n)
  | _ => scopes

/-- The pins of a handle after the operation. -/
def pinsAfter (h : ObjectHandle) (pins : Nat) : TableOp α → Nat
  | .retain k => if k = h then pins + 1 else pins
  | .unpin k => if k = h then pins - 1 else pins
  | _ => pins

theorem length_issued (t : HandleTable α) (op : TableOp α) : (op.issued t).length = op.opens := by
  cases op <;> rfl

theorem onTable_closeScope {tokens : List ScopeToken} {n : Nat} {token : ScopeToken}
    (h : tokens[n]? = some token) (next : Nat) (t : HandleTable α) :
    (closeScope n).onTable next tokens t = (t.closeScope token).2 := by
  simp only [onTable, h]

theorem sorted_onTable {t : HandleTable α} (ht : t.Sorted) (next : Nat) (tokens : List ScopeToken)
    (op : TableOp α) : (op.onTable next tokens t).Sorted := by
  cases op with
  | openScope => exact ht
  | closeScope n =>
    simp only [onTable]
    split
    · exact ht.closeScope _
    · exact ht
  | adopt o => exact ht.adopt _ o
  | retain h => exact ht.retain h
  | unpin h => exact ht.unpin h
  | release h => exact ht.release h

end TableOp

namespace TableGroup

variable {ι α : Type}

def initial (start : Nat) : TableGroup ι α := ⟨fun _ => .empty, start, []⟩

variable [DecidableEq ι]

/-- Does something to one of the tables. -/
def step (g : TableGroup ι α) (i : ι) (op : TableOp α) : TableGroup ι α where
  tables j := if j = i then op.onTable g.next g.tokens (g.tables j) else g.tables j
  next := g.next + op.mints
  tokens := g.tokens ++ op.issued (g.tables i)

theorem tables_step_self (g : TableGroup ι α) (i : ι) (op : TableOp α) :
    (g.step i op).tables i = op.onTable g.next g.tokens (g.tables i) := if_pos rfl

theorem tables_step_of_ne {i j : ι} (h : j ≠ i) (g : TableGroup ι α) (op : TableOp α) :
    (g.step i op).tables j = g.tables j := if_neg h

end TableGroup

/-! ### Histories -/

/-- What was done to the tables of a process, the latest first. -/
abbrev TableHistory (ι α : Type) := List (ι × TableOp α)

namespace TableHistory

variable {ι α : Type}

/-- The number of scopes that were opened. -/
def opened : TableHistory ι α → Nat
  | [] => 0
  | (_, op) :: past => opened past + op.opens

/-- The number of handles that were minted. -/
def minted : TableHistory ι α → Nat
  | [] => 0
  | (_, op) :: past => minted past + op.mints

variable [DecidableEq ι]

/-- The numbers of the open scopes of a table, the innermost first. -/
def openScopes (i : ι) : TableHistory ι α → List Nat
  | [] => []
  | (j, op) :: past =>
    if j = i then op.scopesAfter (opened past) (openScopes i past) else openScopes i past

/-- The retains of a handle in a table that no unpin has taken back. -/
def pins (i : ι) (h : ObjectHandle) : TableHistory ι α → Nat
  | [] => 0
  | (j, op) :: past => if j = i then op.pinsAfter h (pins i h past) else pins i h past

/-- A scope is only ever closed in the table that opened it, and while it is open. -/
def Lawful : TableHistory ι α → Prop
  | [] => True
  | (i, op) :: past => (∀ n, op = .closeScope n → n ∈ openScopes i past) ∧ Lawful past

/-- The tables after a history, when the first handle has the given number. -/
def run (start : Nat) : TableHistory ι α → TableGroup ι α
  | [] => .initial start
  | (i, op) :: past => (run start past).step i op

variable {i : ι} {past : TableHistory ι α}

theorem Lawful.of_suffix (h : past.Lawful) {earlier : TableHistory ι α} (hs : earlier <:+ past) :
    earlier.Lawful := by
  obtain ⟨later, rfl⟩ := hs
  induction later with
  | nil => exact h
  | cons x later ih => exact ih h.2

omit [DecidableEq ι] in
/-- A count that no operation lowers has grown since an earlier moment. -/
theorem le_of_suffix {count : TableHistory ι α → Nat}
    (hcons : ∀ x past, count past ≤ count (x :: past)) {earlier : TableHistory ι α}
    (hs : earlier <:+ past) : count earlier ≤ count past := by
  obtain ⟨later, rfl⟩ := hs
  induction later with
  | nil => exact Nat.le_refl _
  | cons x later ih => exact Nat.le_trans ih (hcons x _)

omit [DecidableEq ι] in
theorem minted_le_of_suffix {earlier : TableHistory ι α} (hs : earlier <:+ past) :
    minted earlier ≤ minted past := le_of_suffix (fun _ _ => Nat.le_add_right _ _) hs

omit [DecidableEq ι] in
theorem opened_le_of_suffix {earlier : TableHistory ι α} (hs : earlier <:+ past) :
    opened earlier ≤ opened past := le_of_suffix (fun _ _ => Nat.le_add_right _ _) hs

theorem openScopes_cons_self (i : ι) (op : TableOp α) (past : TableHistory ι α) :
    openScopes i ((i, op) :: past) = op.scopesAfter (opened past) (openScopes i past) := if_pos rfl

theorem openScopes_cons_of_ne {j : ι} (hj : j ≠ i) (op : TableOp α) (past : TableHistory ι α) :
    openScopes i ((j, op) :: past) = openScopes i past := if_neg hj

/-- The counter counts the minted handles. -/
theorem next_run (start : Nat) (past : TableHistory ι α) :
    (run start past).next = start + minted past := by
  induction past with
  | nil => rfl
  | cons x past ih =>
    obtain ⟨j, op⟩ := x
    have hstep : (run start ((j, op) :: past)).next = (run start past).next + op.mints := rfl
    rw [hstep, ih, minted, Nat.add_assoc]

/-- There is a token for each scope that was opened. -/
theorem length_tokens_run (start : Nat) (past : TableHistory ι α) :
    (run start past).tokens.length = opened past := by
  induction past with
  | nil => rfl
  | cons x past ih =>
    obtain ⟨j, op⟩ := x
    simp only [run, TableGroup.step, List.length_append, TableOp.length_issued, opened, ih]

/-- Tokens stay what they were. -/
theorem tokens_run_prefix (start : Nat) {earlier : TableHistory ι α} (hs : earlier <:+ past) :
    (run start earlier).tokens <+: (run start past).tokens := by
  obtain ⟨later, rfl⟩ := hs
  induction later with
  | nil => exact List.prefix_rfl
  | cons x later ih => exact ih.trans (List.prefix_append ..)

theorem sorted_run (start : Nat) (past : TableHistory ι α) (i : ι) :
    ((run start past).tables i).Sorted := by
  induction past with
  | nil => exact HandleTable.sorted_empty
  | cons x past ih =>
    obtain ⟨j, op⟩ := x
    by_cases hj : i = j
    · subst hj
      exact (TableGroup.tables_step_self (run start past) i op).symm ▸
        TableOp.sorted_onTable ih _ _ op
    · exact (TableGroup.tables_step_of_ne hj (run start past) op).symm ▸ ih

end TableHistory

/-! ### Numbers and depths -/

/-- The open scopes of a table, known by number, agree with its depth and with the tokens. -/
structure Stacked (tokens : List ScopeToken) (opened depth : Nat) (scopes : List Nat) : Prop where
  depth : scopes.length = depth
  falling : scopes.Pairwise (· > ·)
  numbered : ∀ n ∈ scopes, n < opened
  token : ∀ n ∈ scopes, tokens[n]? = some ⟨scopes.countP (· ≤ n)⟩

namespace Stacked

variable {tokens : List ScopeToken} {opened depth : Nat} {scopes : List Nat}

theorem empty (tokens : List ScopeToken) (opened : Nat) : Stacked tokens opened 0 [] where
  depth := rfl
  falling := List.Pairwise.nil
  numbered _ h := by cases h
  token _ h := by cases h

/-- An open scope counts once among those that are not newer. -/
theorem countP_le (h : Stacked tokens opened depth scopes) {n : Nat} (hn : n ∈ scopes) :
    scopes.countP (· ≤ n) = scopes.countP (· < n) + 1 := by
  have hsplit : ∀ l : List Nat, l.countP (· ≤ n) = l.countP (· < n) + l.count n := by
    intro l
    induction l with
    | nil => rfl
    | cons m l ih =>
      simp only [List.countP_cons, List.count_cons, ih, decide_eq_true_eq, beq_iff_eq]
      rcases Nat.lt_trichotomy m n with hlt | rfl | hgt
      · simp [hlt, Nat.le_of_lt hlt, Nat.ne_of_lt hlt]
        omega
      · simp
        omega
      · simp [Nat.not_lt_of_gt hgt, Nat.not_le_of_gt hgt, Nat.ne_of_gt hgt]
  have hnodup : scopes.Nodup := h.falling.imp fun hlt => Nat.ne_of_gt hlt
  rw [hsplit, hnodup.count, if_pos hn]

/-- The older of two open scopes is the one of smaller depth. -/
theorem countP_lt_iff (h : Stacked tokens opened depth scopes) {m n : Nat} (hn : n ∈ scopes) :
    scopes.countP (· ≤ m) < scopes.countP (· ≤ n) ↔ m < n := by
  constructor
  · intro hlt
    refine Nat.lt_of_not_le fun hle => ?_
    have hmono : scopes.countP (· ≤ n) ≤ scopes.countP (· ≤ m) :=
      List.countP_mono_left fun k _ hk => decide_eq_true (Nat.le_trans (of_decide_eq_true hk) hle)
    omega
  · intro hlt
    have hmono : scopes.countP (· ≤ m) ≤ scopes.countP (· < n) :=
      List.countP_mono_left fun k _ hk =>
        decide_eq_true (Nat.lt_of_le_of_lt (of_decide_eq_true hk) hlt)
    rw [h.countP_le hn]
    omega

theorem openScope (h : Stacked tokens opened depth scopes) (htokens : tokens.length = opened) :
    Stacked (tokens ++ [⟨depth + 1⟩]) (opened + 1) (depth + 1) (opened :: scopes) where
  depth := congrArg (· + 1) h.depth
  falling := h.falling.cons fun n hn => h.numbered n hn
  numbered n hn := by
    rcases List.mem_cons.mp hn with rfl | hn
    · exact Nat.lt_succ_self n
    · exact Nat.lt_succ_of_lt (h.numbered n hn)
  token n hn := by
    rw [List.countP_cons]
    rcases List.mem_cons.mp hn with rfl | hn
    · -- all open scopes are older than the new one
      have hall : scopes.countP (· ≤ n) = scopes.length :=
        List.countP_eq_length.mpr fun m hm => decide_eq_true (Nat.le_of_lt (h.numbered m hm))
      rw [List.getElem?_append_right (Nat.le_of_eq htokens), htokens, Nat.sub_self, hall, h.depth]
      simp
    · have hold := h.numbered n hn
      rw [List.getElem?_append_left (htokens ▸ hold), h.token n hn]
      simp [Nat.not_le_of_gt hold]

/-- Closing an open scope takes it away with all newer ones. -/
theorem closeScope (h : Stacked tokens opened depth scopes) {n : Nat} (hn : n ∈ scopes) :
    Stacked tokens opened (scopes.countP (· ≤ n) - 1) (scopes.filter (· < n)) where
  depth := by
    rw [h.countP_le hn, List.countP_eq_length_filter]
    rfl
  falling := h.falling.filter _
  numbered m hm := h.numbered m (List.mem_filter.mp hm).1
  token m hm := by
    obtain ⟨hm, hlt⟩ := List.mem_filter.mp hm
    have hsame : (scopes.filter (· < n)).countP (· ≤ m) = scopes.countP (· ≤ m) := by
      rw [List.countP_filter]
      refine List.countP_congr fun k _ => ?_
      simp only [decide_eq_true_eq, Bool.and_eq_true] at hlt ⊢
      omega
    rw [h.token m hm, hsame]

/-- Scopes that other tables open meanwhile. -/
theorem extend (h : Stacked tokens opened depth scopes) (more : List ScopeToken) {opened' : Nat}
    (hopened : opened ≤ opened') (htokens : tokens.length = opened) :
    Stacked (tokens ++ more) opened' depth scopes where
  depth := h.depth
  falling := h.falling
  numbered n hn := Nat.lt_of_lt_of_le (h.numbered n hn) hopened
  token n hn := by rw [List.getElem?_append_left (htokens ▸ h.numbered n hn), h.token n hn]

end Stacked

namespace TableHistory

variable {ι α : Type} [DecidableEq ι] {past : TableHistory ι α}

/-- After a lawful history the scopes of each table are stacked. -/
theorem stacked_run (start : Nat) (h : past.Lawful) (i : ι) :
    Stacked (run start past).tokens (opened past) ((run start past).tables i).depth
      (openScopes i past) := by
  induction past with
  | nil => exact .empty _ _
  | cons x past ih =>
    obtain ⟨j, op⟩ := x
    have hpast := ih h.2
    have htokens := length_tokens_run start past
    by_cases hj : j = i
    · subst hj
      rw [openScopes_cons_self, run, TableGroup.tables_step_self]
      cases op with
      | openScope => exact hpast.openScope htokens
      | closeScope n =>
        have hn := h.1 n rfl
        rw [TableOp.onTable_closeScope (hpast.token n hn)]
        exact hpast.closeScope hn |>.extend [] (Nat.le_refl _) htokens
      | unpin k =>
        have hdepth := HandleTable.depth_unpin ((run start past).tables j) k
        exact hdepth.symm ▸ hpast.extend [] (Nat.le_refl _) htokens
      | _ => exact hpast.extend [] (Nat.le_refl _) htokens
    · rw [openScopes_cons_of_ne hj, run, TableGroup.tables_step_of_ne (Ne.symm hj)]
      exact hpast.extend _ (Nat.le_add_right _ _) htokens

end TableHistory
end ScriptBridge
