/-
  ScriptBridge/Proofs/Class/Resolution.lean
  =========================================
  **Which declaration a call means.**

  A table is searched from the front, so a call means the first declaration that
  fits (`resolve?_eq_some_iff`), and what is declared later cannot change that
  (`resolve?_extend`).  The call then fails for want of a declaration, or for an
  argument that does not fit, or ends as the method does.
-/
import ScriptBridge.Class.Method

namespace ScriptBridge

/-- The declaration is of the name and takes so many arguments. -/
def MethodDecl.Fits (m : MethodDecl) (name : String) (arity : Nat) : Prop :=
  m.name = name ∧ m.accepts arity = true

instance (m : MethodDecl) (name : String) (arity : Nat) : Decidable (m.Fits name arity) :=
  inferInstanceAs (Decidable (_ ∧ _))

theorem MethodDecl.fits_iff {m : MethodDecl} {name : String} {arity : Nat} :
    (m.name == name && m.accepts arity) = true ↔ m.Fits name arity := by
  rw [Bool.and_eq_true, beq_iff_eq, Fits]

namespace MethodTable

variable {t : MethodTable} {name : String} {arity index : Nat} {m : MethodDecl}

/-- The table with further declarations after its own. -/
def extend (t : MethodTable) (more : List MethodDecl) : MethodTable :=
  { t with methods := t.methods ++ more }

/-- A call means the first declaration that fits. -/
theorem resolve?_eq_some_iff :
    t.resolve? name arity = some (m, index) ↔
      t.methods[index]? = some m ∧ m.Fits name arity ∧
        ∀ j < index, ∀ m', t.methods[j]? = some m' → ¬ m'.Fits name arity := by
  rw [resolve?, List.find?_eq_some_iff_getElem]
  constructor
  · rintro ⟨hfits, i, hi, hentry, hearlier⟩
    rw [List.getElem_zipIdx, Nat.zero_add] at hentry
    obtain ⟨rfl, rfl⟩ := Prod.mk.inj hentry
    rw [List.length_zipIdx] at hi
    refine ⟨List.getElem?_eq_getElem hi, MethodDecl.fits_iff.mp hfits, fun j hj m' hm' hfits' => ?_⟩
    obtain ⟨hlt, rfl⟩ := List.getElem?_eq_some_iff.mp hm'
    have hpassed := hearlier j hj
    rw [List.getElem_zipIdx, MethodDecl.fits_iff.mpr hfits'] at hpassed
    cases hpassed
  · rintro ⟨hm, hfits, hearlier⟩
    obtain ⟨hlt, rfl⟩ := List.getElem?_eq_some_iff.mp hm
    refine ⟨MethodDecl.fits_iff.mpr hfits, index, by simpa using hlt, by simp, fun j hj => ?_⟩
    rw [List.getElem_zipIdx, Bool.not_eq_true', Bool.eq_false_iff, ne_eq, MethodDecl.fits_iff]
    exact hearlier j hj _ (List.getElem?_eq_getElem (Nat.lt_trans hj hlt))

/-- No declaration of the name takes so many arguments. -/
theorem resolve?_eq_none_iff :
    t.resolve? name arity = none ↔ ∀ m ∈ t.methods, m.name = name → m.accepts arity = false := by
  rw [resolve?, List.find?_eq_none]
  constructor
  · intro h m hm hname
    obtain ⟨i, hi, rfl⟩ := List.mem_iff_getElem.mp hm
    have hentry : (t.methods[i], i) ∈ t.methods.zipIdx := by
      rw [List.mem_zipIdx_iff_getElem?]
      exact List.getElem?_eq_getElem hi
    have hrefused := h _ hentry
    simpa [hname] using hrefused
  · rintro h ⟨m, i⟩ hentry
    have hm : m ∈ t.methods :=
      List.mem_of_getElem? (List.mem_zipIdx_iff_getElem?.mp hentry)
    simp only [Bool.and_eq_true, beq_iff_eq, not_and, Bool.not_eq_true]
    exact h m hm

theorem mem_of_resolve? (h : t.resolve? name arity = some (m, index)) : m ∈ t.methods ∧ m.name = name := by
  obtain ⟨hm, hfits, -⟩ := resolve?_eq_some_iff.mp h
  exact ⟨List.mem_of_getElem? hm, hfits.1⟩

/-- Some declaration fits exactly when a call means one. -/
theorem exists_resolve?_iff :
    (∃ m index, t.resolve? name arity = some (m, index)) ↔ ∃ m ∈ t.methods, m.Fits name arity := by
  constructor
  · rintro ⟨m, index, h⟩
    obtain ⟨hm, hfits, -⟩ := resolve?_eq_some_iff.mp h
    exact ⟨m, List.mem_of_getElem? hm, hfits⟩
  · rintro ⟨m, hm, hname, haccepts⟩
    cases hresolve : t.resolve? name arity with
    | none =>
      have hrefused := resolve?_eq_none_iff.mp hresolve m hm hname
      rw [haccepts] at hrefused
      cases hrefused
    | some found => exact ⟨found.1, found.2, rfl⟩

/-- What is declared later does not change what a call means. -/
theorem resolve?_extend {found : MethodDecl × Nat} (h : t.resolve? name arity = some found)
    (more : List MethodDecl) : (t.extend more).resolve? name arity = some found := by
  rw [resolve?] at h ⊢
  rw [extend, List.zipIdx_append, List.find?_append, h, Option.some_or]

/-! ### How a call ends -/

section Calling

variable {σ α : Type} {values : List Value} {run : Nat → Args → σ → Except HostError α × σ} {s : σ}

theorem call_of_unresolved (h : t.resolve? name values.length = none) :
    t.call name values run s = (.error (.methodNotFound t.name name values.length), s) := by
  rw [call, select, h]

theorem call_of_refused {e : MarshalError} (h : t.resolve? name values.length = some (m, index))
    (hbind : m.bind values = .error e) : t.call name values run s = (.error (.marshal e), s) := by
  rw [call, select, h]
  dsimp only
  rw [hbind]

theorem call_of_bound {args : Args} (h : t.resolve? name values.length = some (m, index))
    (hbind : m.bind values = .ok args) :
    t.call name values run s =
      ((run index args s).1.mapError (t.failure name), (run index args s).2) := by
  rw [call, select, h]
  dsimp only
  rw [hbind]
  dsimp only
  rcases run index args s with ⟨outcome, after⟩
  cases outcome <;> rfl

end Calling

end MethodTable
end ScriptBridge
