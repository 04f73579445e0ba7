/-
  ScriptBridge/Data/Assoc.lean
  ============================
  **Finite maps as lists of entries in key order.**

  Every table of the bridge (maps inside values, handles, widgets, callbacks,
  assets) is a list of entries whose keys increase.  `insert` keeps that order
  and replaces the entry that is there.  How a look-up sees an insertion or an
  erasure needs no law of the order at all, so these lemmas hold of any list.
-/

namespace ScriptBridge.Assoc

variable {κ α : Type} [DecidableEq κ]

/-- The entry under a key. -/
def find? (k : κ) : List (κ × α) → Option α
  | [] => none
  | (k', a) :: rest => if k' = k then some a else find? k rest

def contains (k : κ) (l : List (κ × α)) : Bool := (find? k l).isSome

/-- All entries but those under a key. -/
def erase (k : κ) (l : List (κ × α)) : List (κ × α) := l.filter fun e => e.1 ≠ k

/-- Puts an entry at its place in key order; an entry under the same key is replaced. -/
def insert [LT κ] [DecidableLT κ] (k : κ) (a : α) : List (κ × α) → List (κ × α)
  | [] => [(k, a)]
  | (k', a') :: rest =>
    if k' = k then (k, a) :: rest
    else if k < k' then (k, a) :: (k', a') :: rest
    else (k', a') :: insert k a rest

/-- Changes the entry under a key, if there is one. -/
def modify (k : κ) (f : α → α) (l : List (κ × α)) : List (κ × α) :=
  l.map fun e => if e.1 = k then (e.1, f e.2) else e

/-- The map with the given entries; of two entries under one key the later one stays. -/
def ofList [LT κ] [DecidableLT κ] (l : List (κ × α)) : List (κ × α) :=
  l.foldl (fun acc e => insert e.1 e.2 acc) []

def keys (l : List (κ × α)) : List κ := l.map Prod.fst

def values (l : List (κ × α)) : List α := l.map Prod.snd

/-! ### How a look-up sees each operation -/

@[simp] theorem find?_nil (k : κ) : find? k ([] : List (κ × α)) = none := rfl

theorem find?_cons (k k' : κ) (a : α) (rest : List (κ × α)) :
    find? k ((k', a) :: rest) = if k' = k then some a else find? k rest := rfl

@[simp] theorem find?_insert_self [LT κ] [DecidableLT κ] (k : κ) (a : α) (l : List (κ × α)) :
    find? k (insert k a l) = some a := by
  induction l with
  | nil => simp [insert, find?]
  | cons e rest ih =>
    obtain ⟨k', a'⟩ := e
    unfold insert
    split
    · simp [find?]
    · split
      · simp [find?]
      · next h _ => simp [find?, h, ih]

theorem find?_insert_of_ne [LT κ] [DecidableLT κ] {k k' : κ} (h : k ≠ k') (a : α)
    (l : List (κ × α)) : find? k' (insert k a l) = find? k' l := by
  induction l with
  | nil => simp [insert, find?, h]
  | cons e rest ih =>
    obtain ⟨k'', a''⟩ := e
    unfold insert
    split
    · next hk => subst hk; simp [find?, h]
    · split
      · simp [find?, h]
      · simp [find?, ih]

@[simp] theorem find?_erase_self (k : κ) (l : List (κ × α)) : find? k (erase k l) = none := by
  induction l with
  | nil => rfl
  | cons e rest ih =>
    obtain ⟨k', a⟩ := e
    by_cases h : k' = k
    · simpa [erase, h] using ih
    · simpa [erase, h, find?] using ih

theorem find?_erase_of_ne {k k' : κ} (h : k ≠ k') (l : List (κ × α)) :
    find? k' (erase k l) = find? k' l := by
  induction l with
  | nil => rfl
  | cons e rest ih =>
    obtain ⟨k'', a⟩ := e
    by_cases hk : k'' = k
    · subst hk
      simpa [erase, find?, h] using ih
    · by_cases hk' : k'' = k'
      · subst hk'
        simp [erase, find?, hk]
      · simpa [erase, find?, hk, hk'] using ih

theorem find?_modify (k k' : κ) (f : α → α) (l : List (κ × α)) :
    find? k' (modify k f l) = if k = k' then (find? k' l).map f else find? k' l := by
  induction l with
  | nil => simp [modify]
  | cons e rest ih =>
    obtain ⟨k'', a⟩ := e
    have ih' : find? k' (rest.map fun e => if e.1 = k then (e.1, f e.2) else e) =
        if k = k' then (find? k' rest).map f else find? k' rest := ih
    by_cases h : k'' = k
    · by_cases h' : k'' = k' <;> simp_all [modify, find?]
    · by_cases h' : k'' = k'
      · subst h'
        simp [modify, find?, h, Ne.symm h]
      · simp_all [modify, find?]

end ScriptBridge.Assoc
