/-
  ScriptBridge/Proofs/Widget/Fresh.lean
  =====================================
  **Widget ids are words, and a word counts 2 ^ 64 widgets.**

  Ids are handed out in order from wherever the process is.  As long as no more
  than 2 ^ 64 are taken, the next one has no record yet.
-/
import ScriptBridge.Proofs.Widget.Lookup

namespace ScriptBridge

/-- Words that are fewer than 2 ^ 64 steps ahead of a word differ when the steps do. -/
theorem steps_eq_of_add_eq (start : Int64) {i j : Nat} (hi : i < Int64.size) (hj : j < Int64.size)
    (h : start + Int64.ofNat i = start + Int64.ofNat j) : i = j := by
  have hwords : Int64.ofNat i = Int64.ofNat j := (Int64.add_right_inj start).mp h
  have hbits : BitVec.ofNat 64 i = BitVec.ofNat 64 j := congrArg Int64.toBitVec hwords
  have hnat := congrArg BitVec.toNat hbits
  rwa [BitVec.toNat_ofNat, BitVec.toNat_ofNat, Nat.mod_eq_of_lt hi, Nat.mod_eq_of_lt hj] at hnat

/-- A word that counts on does not wrap before it passes the greatest one. -/
theorem toInt_add_ofNat {x : Int64} {n : Nat} (h : x.toInt + n ≤ Int64.maxValue.toInt) :
    (x + Int64.ofNat n).toInt = x.toInt + n := by
  have hleast : -2 ^ 63 ≤ x.toInt := x.le_toInt
  have hgreatest : Int64.maxValue.toInt = 2 ^ 63 - 1 := rfl
  have hsize : (Int64.size : Int) = 2 ^ 64 := rfl
  rw [Int64.toInt_add, Int64.toInt_ofNat', Int.add_bmod_bmod]
  exact Int.bmod_eq_of_le (by omega) (by omega)

theorem le_add_ofNat {x : Int64} {n : Nat} (h : x.toInt + n ≤ Int64.maxValue.toInt) :
    x ≤ x + Int64.ofNat n := by
  rw [Int64.le_iff_toInt_le, toInt_add_ofNat h]
  omega

theorem lt_add_ofNat {x : Int64} {n : Nat} (h : x.toInt + n ≤ Int64.maxValue.toInt) (hn : 0 < n) :
    x < x + Int64.ofNat n := by
  rw [Int64.lt_iff_toInt_lt, toInt_add_ofNat h]
  omega

/-! ### Items under ids that follow each other -/

/-- What the items of a list make of the ids that follow each other from an id on. -/
def fromId {α β : Type} (f : WidgetId → α → List β) (next : WidgetId) (items : List α) : List β :=
  items.zipIdx.flatMap fun e => f (next + Int64.ofNat e.2) e.1

section FromId

variable {α β : Type} (f : WidgetId → α → List β) (next : WidgetId)

@[simp] theorem fromId_nil : fromId f next [] = [] := rfl

theorem fromId_singleton (a : α) : fromId f next [a] = f next a := by
  have hzero : next + Int64.ofNat 0 = next := Int64.add_zero next
  simp only [fromId, List.zipIdx_singleton, List.flatMap_singleton, hzero]

theorem fromId_append (items more : List α) :
    fromId f next (items ++ more) =
      fromId f next items ++ fromId f (next + Int64.ofNat items.length) more := by
  have hshift : ∀ k, next + Int64.ofNat (items.length + k) =
      next + Int64.ofNat items.length + Int64.ofNat k := by
    intro k
    rw [Int64.ofNat_add, Int64.add_assoc]
  have hmore : more.zipIdx items.length = more.zipIdx.map fun e => (e.1, items.length + e.2) :=
    List.zipIdx_eq_map_add
  simp only [fromId, List.zipIdx_append, List.flatMap_append, Nat.zero_add, hmore, List.flatMap_map,
    hshift]

theorem fromId_cons (a : α) (rest : List α) :
    fromId f next (a :: rest) = f next a ++ fromId f (next + Int64.ofNat 1) rest := by
  have happend := fromId_append f next [a] rest
  rwa [fromId_singleton] at happend

theorem mem_fromId {items : List α} {x : β} (hx : x ∈ fromId f next items) :
    ∃ k a, items[k]? = some a ∧ x ∈ f (next + Int64.ofNat k) a := by
  obtain ⟨⟨a, k⟩, hitem, hx⟩ := List.mem_flatMap.mp hx
  exact ⟨k, a, List.mem_zipIdx_iff_getElem?.mp hitem, hx⟩

end FromId

/-- The recorded ids are among the first so many from a start, and the next id comes after them. -/
structure WidgetTable.Numbered (t : WidgetTable) (next start : WidgetId) (used : Nat) : Prop where
  next_eq : next = start + Int64.ofNat used
  taken : ∀ id, (t.find? id).isSome → ∃ i < used, id = start + Int64.ofNat i

namespace WidgetTable.Numbered

variable {t t' : WidgetTable} {next start : WidgetId} {used : Nat}

theorem initial (start : WidgetId) : empty.Numbered start start 0 where
  next_eq := (Int64.add_zero start).symm
  taken _ h := by cases h

/-- The next id has no record. -/
theorem find?_next (h : t.Numbered next start used) (hused : used < Int64.size) : t.find? next = none := by
  cases hr : t.find? next with
  | none => rfl
  | some r =>
    obtain ⟨i, hi, hid⟩ := h.taken next (by rw [hr]; rfl)
    have heq := steps_eq_of_add_eq start hused (Nat.lt_trans hi hused) (h.next_eq.symm.trans hid)
    exact absurd hi (by omega)

/-- Ids that are used up, of which only the next one may get a record. -/
theorem advance (h : t.Numbered next start used) (n : Nat)
    (ht : ∀ id, (t'.find? id).isSome → (t.find? id).isSome ∨ (id = next ∧ 0 < n)) :
    t'.Numbered (next + Int64.ofNat n) start (used + n) where
  next_eq := by rw [h.next_eq, Int64.ofNat_add, Int64.add_assoc]
  taken id hid := by
    rcases ht id hid with hold | ⟨rfl, hn⟩
    · obtain ⟨i, hi, heq⟩ := h.taken id hold
      exact ⟨i, by omega, heq⟩
    · exact ⟨used, by omega, h.next_eq⟩

end WidgetTable.Numbered
end ScriptBridge
