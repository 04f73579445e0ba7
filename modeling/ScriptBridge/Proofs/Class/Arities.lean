/-
  ScriptBridge/Proofs/Class/Arities.lean
  ======================================
  **Which argument counts a class advertises for a name.**

  A table lists, for every declared name, the counts of all declarations of that
  name together.  The list is built one declaration at a time, with an insertion
  that keeps it increasing, so what it holds is read off by an induction over
  the declarations (`mem_arities`).

  What is listed is set against what a call resolves to.  Up to the cap the two
  agree, since there a variadic declaration is listed with every count it takes.
  Beyond the cap it is listed at most with the count of its own parameters, as a
  fixed one is.
-/
import ScriptBridge.Proofs.Class.Resolution
import ScriptBridge.Proofs.Data.Sorted

namespace ScriptBridge

theorem mem_insertNumber {n m : Nat} {l : List Nat} : n ∈ insertNumber m l ↔ n = m ∨ n ∈ l := by
  induction l with
  | nil => simp [insertNumber]
  | cons k rest ih =>
    unfold insertNumber
    split
    · next hk => simp [hk]
    · split
      · simp
      · simp [ih, or_left_comm]

theorem mem_insertNumbers {n : Nat} {new known : List Nat} :
    n ∈ new.foldl (fun ns n => insertNumber n ns) known ↔ n ∈ new ∨ n ∈ known := by
  induction new generalizing known with
  | nil => simp
  | cons m rest ih =>
    rw [List.foldl_cons, ih, mem_insertNumber, List.mem_cons, or_left_comm, or_assoc]

namespace MethodTable

/-- The argument counts that a table advertises for a name. -/
def arities (t : MethodTable) (cap : Nat) (name : String) : List Nat :=
  (Assoc.find? name (t.scriptArities cap)).getD []

theorem mem_declaredArities_iff {cap n : Nat} {m : MethodDecl} :
    n ∈ declaredArities cap m ↔
      match m.rest with
      | none => n = m.params.length
      | some _ => m.params.length ≤ n ∧ n ≤ max cap m.params.length := by
  unfold declaredArities
  cases m.rest with
  | none => simp
  | some kind =>
    simp only [List.mem_filter, List.mem_range, decide_eq_true_eq]
    omega

/-- Fixed or variadic, a declaration advertises the count of its own parameters. -/
theorem length_params_mem_declaredArities (cap : Nat) (m : MethodDecl) :
    m.params.length ∈ declaredArities cap m := by
  rw [mem_declaredArities_iff]
  cases m.rest with
  | none => rfl
  | some kind => exact ⟨Nat.le_refl _, Nat.le_max_right ..⟩

/-! ### The listing -/

theorem increasing_insertNumber {n : Nat} {l : List Nat} (h : l.Pairwise (· < ·)) :
    (insertNumber n l).Pairwise (· < ·) := by
  induction l with
  | nil => simp [insertNumber]
  | cons k rest ih =>
    obtain ⟨hhead, hrest⟩ := List.pairwise_cons.mp h
    unfold insertNumber
    split
    · exact h
    · split
      · next hlt =>
        refine List.pairwise_cons.mpr ⟨?_, h⟩
        intro m hm
        rcases List.mem_cons.mp hm with rfl | hm
        · exact hlt
        · exact Nat.lt_trans hlt (hhead m hm)
      · next hne hlt =>
        refine List.pairwise_cons.mpr ⟨?_, ih hrest⟩
        intro m hm
        rcases mem_insertNumber.mp hm with rfl | hm
        · omega
        · exact hhead m hm

theorem increasing_insertNumbers (new : List Nat) {known : List Nat} (h : known.Pairwise (· < ·)) :
    (new.foldl (fun ns n => insertNumber n ns) known).Pairwise (· < ·) := by
  induction new generalizing known with
  | nil => exact h
  | cons n rest ih => exact ih (increasing_insertNumber h)

/-- The listing of some declarations: their names in order, and for each name the counts of all its
    declarations, increasing. -/
structure Listing (cap : Nat) (declared : List MethodDecl) (listed : List (String × List Nat)) :
    Prop where
  sorted : Assoc.Sorted listed
  names : ∀ name, (Assoc.find? name listed).isSome ↔ ∃ m ∈ declared, m.name = name
  counts : ∀ name n, n ∈ (Assoc.find? name listed).getD [] ↔
    ∃ m ∈ declared, m.name = name ∧ n ∈ declaredArities cap m
  increasing : ∀ name, ((Assoc.find? name listed).getD []).Pairwise (· < ·)

/-- One more declaration is listed. -/
theorem Listing.declare {cap : Nat} {declared : List MethodDecl} {listed : List (String × List Nat)}
    (h : Listing cap declared listed) (m : MethodDecl) :
    Listing cap (declared ++ [m])
      (Assoc.insert m.name ((declaredArities cap m).foldl (fun ns n => insertNumber n ns)
        ((Assoc.find? m.name listed).getD [])) listed) := by
  constructor
  · exact h.sorted.insert m.name _
  · intro name
    by_cases hname : m.name = name
    · simp [hname]
    · rw [Assoc.find?_insert_of_ne hname, h.names]
      simp [hname]
  · intro name n
    by_cases hname : m.name = name
    · subst hname
      rw [Assoc.find?_insert_self, Option.getD_some, mem_insertNumbers, h.counts]
      simp [or_and_right, exists_or, or_comm]
    · rw [Assoc.find?_insert_of_ne hname, h.counts]
      simp [or_and_right, exists_or, hname]
  · intro name
    by_cases hname : m.name = name
    · subst hname
      rw [Assoc.find?_insert_self, Option.getD_some]
      exact increasing_insertNumbers _ (h.increasing m.name)
    · rw [Assoc.find?_insert_of_ne hname]
      exact h.increasing name

theorem listing_scriptArities (t : MethodTable) (cap : Nat) :
    Listing cap t.methods (t.scriptArities cap) := by
  -- Over the declarations: what is listed so far, and what the remaining ones add.
  have hfold : ∀ (methods declared : List MethodDecl) (listed : List (String × List Nat)),
      Listing cap declared listed → Listing cap (declared ++ methods) (methods.foldl
        (fun acc m =>
          let known := (Assoc.find? m.name acc).getD []
          Assoc.insert m.name ((declaredArities cap m).foldl (fun ns n => insertNumber n ns) known)
            acc) listed) := by
    intro methods
    induction methods with
    | nil =>
      intro declared listed h
      simpa using h
    | cons m rest ih =>
      intro declared listed h
      simpa using ih _ _ (h.declare m)
  refine hfold t.methods [] [] ?_
  constructor <;> simp [Assoc.sorted_nil]

/-- A count is advertised when some declaration of the name has it. -/
theorem mem_arities {t : MethodTable} {cap n : Nat} {name : String} :
    n ∈ t.arities cap name ↔ ∃ m ∈ t.methods, m.name = name ∧ n ∈ declaredArities cap m :=
  (t.listing_scriptArities cap).counts name n

/-! ### What is listed and what resolves -/

/-- Up to the cap, the counts listed for a declaration are those it takes. -/
theorem mem_declaredArities_of_le {cap n : Nat} (hn : n ≤ cap) (m : MethodDecl) :
    n ∈ declaredArities cap m ↔ m.accepts n = true := by
  rw [mem_declaredArities_iff, MethodDecl.accepts]
  cases m.rest with
  | none => simp
  | some kind =>
    simp only [decide_eq_true_eq]
    omega

/-- Beyond the cap, no declaration is listed with a count other than that of its parameters. -/
theorem mem_declaredArities_of_lt {cap n : Nat} (hn : cap < n) (m : MethodDecl) :
    n ∈ declaredArities cap m ↔ m.params.length = n := by
  rw [mem_declaredArities_iff]
  cases m.rest with
  | none => simp [eq_comm]
  | some kind =>
    simp only
    omega

/-- Every listed count is one that the declaration takes. -/
theorem accepts_of_mem_declaredArities {cap n : Nat} {m : MethodDecl}
    (h : n ∈ declaredArities cap m) : m.accepts n = true := by
  rw [mem_declaredArities_iff] at h
  rw [MethodDecl.accepts]
  revert h
  cases m.rest with
  | none => simp
  | some kind =>
    rintro ⟨hn, -⟩
    simpa using hn

theorem isSome_resolve?_iff {t : MethodTable} {name : String} {n : Nat} :
    (t.resolve? name n).isSome ↔ ∃ m ∈ t.methods, m.name = name ∧ m.accepts n = true := by
  rw [Option.isSome_iff_exists, Prod.exists]
  exact exists_resolve?_iff

/-- What a table lists for a name and what calls of that name resolve to.  A count up to the cap is
    listed exactly if a call with so many arguments resolves.  A count beyond it is listed exactly if
    some declaration of the name, fixed or variadic, has so many parameters.  Every listed count
    resolves, and a name is listed exactly if it is declared.  The listing is a map of sets: names and
    counts are in order, and none is there twice. -/
theorem advertised_arities (t : MethodTable) (cap : Nat) (name : String) :
    (∀ n, n ≤ cap → (n ∈ t.arities cap name ↔ (t.resolve? name n).isSome)) ∧
    (∀ n, cap < n →
      (n ∈ t.arities cap name ↔ ∃ m ∈ t.methods, m.name = name ∧ m.params.length = n)) ∧
    (∀ n ∈ t.arities cap name, (t.resolve? name n).isSome) ∧
    ((Assoc.find? name (t.scriptArities cap)).isSome ↔ ∃ m ∈ t.methods, m.name = name) ∧
    Assoc.Sorted (t.scriptArities cap) ∧ (t.arities cap name).Pairwise (· < ·) := by
  have hlisting := t.listing_scriptArities cap
  refine ⟨?within, ?beyond, ?resolves, hlisting.names name, hlisting.sorted,
    hlisting.increasing name⟩
  case within =>
    intro n hn
    rw [mem_arities, isSome_resolve?_iff]
    simp only [mem_declaredArities_of_le hn]
  case beyond =>
    intro n hn
    rw [mem_arities]
    simp only [mem_declaredArities_of_lt hn]
  case resolves =>
    intro n hn
    obtain ⟨m, hm, hname, hlisted⟩ := mem_arities.mp hn
    rw [isSome_resolve?_iff]
    exact ⟨m, hm, hname, accepts_of_mem_declaredArities hlisted⟩

end MethodTable
end ScriptBridge
