/-
  ScriptBridge/Proofs/Layout/Offsets.lean
  =======================================
  **The places of children in closed form.**

  A cursor adds an extent and a spacing for each child, and every addition stops
  at the ends of the word range.  Two cases have a closed form.  While all partial
  sums are words, nothing ever stops, and a child stands at the exact sum from the
  base, whatever the sign of the spacing.  With nothing negative, a sum that has
  stopped once stays at the greatest word, so it is enough to stop the exact sum at
  the end.

  `stacking_offsets` states both, with what holds of every cursor: the coordinate
  across the axis is that of the base, the offsets alone are those of
  `stackOffsets`, and turning everything by a right angle turns the origins.
-/
import ScriptBridge.Proofs.Layout.Stack

namespace ScriptBridge

/-! ### Right angles -/

def Point.transposed (p : Point) : Point := ⟨p.y, p.x⟩

def Size.transposed (s : Size) : Size := ⟨s.height, s.width⟩

namespace StackCursor

variable {c : StackCursor} {sizes : List Size}

/-- The cursor of the same container with its axes exchanged. -/
def transposed (c : StackCursor) : StackCursor :=
  { c with axis := c.axis.other, base := c.base.transposed }

theorem next_transposed (c : StackCursor) : c.transposed.next = c.next.transposed := by
  obtain ⟨axis, base, spacing, offset, placed, cross⟩ := c
  cases axis <;> rfl

theorem advance_transposed (c : StackCursor) (size : Size) :
    c.transposed.advance size.transposed = (c.advance size).transposed := by
  obtain ⟨axis, base, spacing, offset, placed, cross⟩ := c
  cases axis <;> rfl

theorem origins_transposed (c : StackCursor) (sizes : List Size) :
    c.transposed.origins (sizes.map Size.transposed) = (c.origins sizes).map Point.transposed := by
  induction sizes generalizing c with
  | nil => rfl
  | cons size rest ih =>
    rw [List.map_cons, origins, origins, List.map_cons, next_transposed, advance_transposed, ih]

/-! ### Origins -/

/-- Where the child goes that comes after the first so many. -/
def originAt (c : StackCursor) (sizes : List Size) (k : Nat) : Point :=
  (c.advanceAll (sizes.take k)).next

theorem getElem?_origins (c : StackCursor) (sizes : List Size) (k : Nat) :
    (c.origins sizes)[k]? = if k < sizes.length then some (c.originAt sizes k) else none := by
  induction sizes generalizing c k with
  | nil => rfl
  | cons size rest ih =>
    cases k with
    | zero => simp [origins, originAt, advanceAll_nil]
    | succ k =>
      rw [origins, List.getElem?_cons_succ, ih]
      simp [originAt, advanceAll_cons]

theorem coordinate_originAt (c : StackCursor) (sizes : List Size) (k : Nat) :
    c.axis.coordinate (c.originAt sizes k) =
      Word.add (c.axis.coordinate c.base) (c.advanceAll (sizes.take k)).offset := by
  have hnext := coordinate_next (c.advanceAll (sizes.take k))
  rwa [axis_advanceAll, base_advanceAll] at hnext

theorem coordinate_other_originAt (c : StackCursor) (sizes : List Size) (k : Nat) :
    c.axis.other.coordinate (c.originAt sizes k) = c.axis.other.coordinate c.base := by
  have hnext := coordinate_other_next (c.advanceAll (sizes.take k))
  rwa [axis_advanceAll, base_advanceAll] at hnext

/-- The coordinates along the axis depend only on what is along the axis. -/
theorem coordinates_origins_congr {c d : StackCursor} {sizes sizes' : List Size}
    (hbase : c.axis.coordinate c.base = d.axis.coordinate d.base) (hoffset : c.offset = d.offset)
    (hspacing : c.spacing = d.spacing)
    (hextents : sizes.map c.axis.extent = sizes'.map d.axis.extent) :
    (c.origins sizes).map c.axis.coordinate = (d.origins sizes').map d.axis.coordinate := by
  induction sizes generalizing c d sizes' with
  | nil =>
    rw [List.map_nil, eq_comm, List.map_eq_nil_iff] at hextents
    rw [hextents]
    rfl
  | cons size rest ih =>
    cases sizes' with
    | nil => cases hextents
    | cons size' rest' =>
      obtain ⟨hextent, hrest⟩ := List.cons.inj hextents
      have hoffset' : (c.advance size).offset = (d.advance size').offset := by
        simp only [advance, hoffset, hextent, hspacing]
      have htail := ih (c := c.advance size) (d := d.advance size') hbase hoffset' hspacing hrest
      rw [advance_axis, advance_axis] at htail
      rw [origins, origins, List.map_cons, List.map_cons, htail, coordinate_next, coordinate_next,
        hbase, hoffset]

/-! ### Exact sums -/

/-- The exact distance from the base to the child that comes after the given ones. -/
def exactOffset (axis : Axis) (spacing : Int64) (sizes : List Size) : Int :=
  (sizes.map fun size => (axis.extent size).toInt + spacing.toInt).sum

/-- What a cursor adds for the given children, one after the other. -/
def terms (axis : Axis) (spacing : Int64) (sizes : List Size) : List Int :=
  sizes.flatMap fun size => [(axis.extent size).toInt, spacing.toInt]

theorem exactOffset_cons (axis : Axis) (spacing : Int64) (size : Size) (rest : List Size) :
    exactOffset axis spacing (size :: rest) =
      (axis.extent size).toInt + spacing.toInt + exactOffset axis spacing rest := List.sum_cons

/-- The terms of the first children are the first terms. -/
theorem take_terms_take (axis : Axis) (spacing : Int64) (sizes : List Size) (k j : Nat) :
    ∃ i, (terms axis spacing (sizes.take k)).take j = (terms axis spacing sizes).take i := by
  have hsplit : terms axis spacing sizes =
      terms axis spacing (sizes.take k) ++ terms axis spacing (sizes.drop k) := by
    rw [terms, terms, terms, ← List.flatMap_append, List.take_append_drop]
  refine ⟨min j (terms axis spacing (sizes.take k)).length, ?_⟩
  rw [hsplit, List.take_append_of_le_length (Nat.min_le_right _ _)]
  exact List.take_eq_take_min

/-- As long as every partial sum is a word, the offset is exact. -/
theorem toInt_offset_advanceAll
    (h : ∀ j, Word.InRange (c.offset.toInt + ((terms c.axis c.spacing sizes).take j).sum)) :
    (c.advanceAll sizes).offset.toInt = c.offset.toInt + exactOffset c.axis c.spacing sizes := by
  induction sizes generalizing c with
  | nil => exact (Int.add_zero _).symm
  | cons size rest ih =>
    have hterms : terms c.axis c.spacing (size :: rest) =
        (c.axis.extent size).toInt :: c.spacing.toInt :: terms c.axis c.spacing rest := rfl
    rw [hterms] at h
    have hextent := h 1
    have hspacing := h 2
    simp only [List.take_succ_cons, List.take_zero, List.sum_cons, List.sum_nil, Int.add_zero,
      ← Int.add_assoc] at hextent hspacing
    have hstep := toInt_offset_advance_of_inRange hextent hspacing
    have hrest : ∀ j, Word.InRange ((c.advance size).offset.toInt +
        ((terms (c.advance size).axis (c.advance size).spacing rest).take j).sum) := by
      intro j
      have hj := h (j + 2)
      rw [advance_axis, advance_spacing, hstep]
      simpa only [List.take_succ_cons, List.sum_cons, ← Int.add_assoc] using hj
    rw [advanceAll_cons, ih hrest, hstep, advance_axis, advance_spacing, exactOffset_cons]
    omega

/-- With nothing negative, the offset is the exact one, stopped at the greatest word. -/
theorem toInt_offset_advanceAll_of_nonneg (hspacing : 0 ≤ c.spacing.toInt)
    (hsizes : ∀ size ∈ sizes, 0 ≤ (c.axis.extent size).toInt) {n : Int} (hn : 0 ≤ n)
    (hoffset : c.offset.toInt = min Word.greatest n) :
    (c.advanceAll sizes).offset.toInt =
      min Word.greatest (n + exactOffset c.axis c.spacing sizes) := by
  induction sizes generalizing c n with
  | nil => rw [advanceAll_nil, hoffset, exactOffset, List.map_nil, List.sum_nil, Int.add_zero]
  | cons size rest ih =>
    have hextent := hsizes size List.mem_cons_self
    have hleast : Word.least ≤ 0 := by decide
    have hgreatest : 0 ≤ Word.greatest := by decide
    -- One that has stopped at the greatest word stays there.
    have hstep : (c.advance size).offset.toInt =
        min Word.greatest (n + (c.axis.extent size).toInt + c.spacing.toInt) := by
      simp only [advance, Word.toInt_add, hoffset]
      omega
    have hrest : ∀ size' ∈ rest, 0 ≤ ((c.advance size).axis.extent size').toInt := by
      intro size' hmem
      rw [advance_axis]
      exact hsizes size' (List.mem_cons_of_mem size hmem)
    rw [advanceAll_cons, ih (by rwa [advance_spacing]) hrest (by omega) hstep, advance_axis,
      advance_spacing, exactOffset_cons]
    congr 1
    omega

theorem exactOffset_mono {axis : Axis} {spacing : Int64} (hspacing : 0 ≤ spacing.toInt)
    (hsizes : ∀ size ∈ sizes, 0 ≤ (axis.extent size).toInt) {j k : Nat} (hjk : j ≤ k) :
    exactOffset axis spacing (sizes.take j) ≤ exactOffset axis spacing (sizes.take k) := by
  induction sizes generalizing j k with
  | nil => rw [List.take_nil, List.take_nil]
  | cons size rest ih =>
    have hextent := hsizes size List.mem_cons_self
    have hrest : ∀ size' ∈ rest, 0 ≤ (axis.extent size').toInt :=
      fun size' hmem => hsizes size' (List.mem_cons_of_mem size hmem)
    cases k with
    | zero => rw [Nat.le_zero.mp hjk]
    | succ k =>
      rw [List.take_succ_cons, exactOffset_cons]
      cases j with
      | zero =>
        have htail := ih hrest (Nat.zero_le k)
        rw [List.take_zero] at htail ⊢
        have hnone : exactOffset axis spacing [] = 0 := rfl
        omega
      | succ j =>
        rw [List.take_succ_cons, exactOffset_cons]
        have htail := ih hrest (Nat.le_of_succ_le_succ hjk)
        omega

/-! ### Closed forms -/

theorem toInt_originAt {axis : Axis} {base : Point} {spacing : Int64}
    (hsums : ∀ j, Word.InRange ((terms axis spacing sizes).take j).sum) {k : Nat}
    (hplace : Word.InRange
      ((axis.coordinate base).toInt + exactOffset axis spacing (sizes.take k))) :
    (axis.coordinate ((start axis base spacing).originAt sizes k)).toInt =
      (axis.coordinate base).toInt + exactOffset axis spacing (sizes.take k) := by
  have hzero : (start axis base spacing).offset.toInt = 0 := rfl
  have hoffset : ((start axis base spacing).advanceAll (sizes.take k)).offset.toInt =
      exactOffset axis spacing (sizes.take k) := by
    rw [toInt_offset_advanceAll, hzero, Int.zero_add]
    · rfl
    · intro j
      obtain ⟨i, hi⟩ := take_terms_take axis spacing sizes k j
      rw [hzero, Int.zero_add]
      exact hi ▸ hsums i
  rw [← hoffset] at hplace ⊢
  exact (congrArg Int64.toInt (coordinate_originAt (start axis base spacing) sizes k)).trans
    (Word.toInt_add_of_inRange hplace)

/-- With nothing negative, the offset from the start is the exact one, stopped at the greatest word. -/
theorem toInt_offset_start_of_nonneg {axis : Axis} {spacing : Int64} (base : Point)
    (hspacing : 0 ≤ spacing.toInt) (hsizes : ∀ size ∈ sizes, 0 ≤ (axis.extent size).toInt) :
    ((start axis base spacing).advanceAll sizes).offset.toInt =
      min Word.greatest (exactOffset axis spacing sizes) := by
  have hoffset := toInt_offset_advanceAll_of_nonneg (c := start axis base spacing) hspacing hsizes
    Int.le_rfl rfl
  rwa [Int.zero_add] at hoffset

theorem toInt_originAt_of_nonneg {axis : Axis} {spacing : Int64} (base : Point)
    (hspacing : 0 ≤ spacing.toInt) (hsizes : ∀ size ∈ sizes, 0 ≤ (axis.extent size).toInt)
    (k : Nat) :
    (axis.coordinate ((start axis base spacing).originAt sizes k)).toInt =
      min Word.greatest ((axis.coordinate base).toInt +
        min Word.greatest (exactOffset axis spacing (sizes.take k))) := by
  have hfirst : ∀ size ∈ sizes.take k, 0 ≤ (axis.extent size).toInt :=
    fun size hmem => hsizes size (List.mem_of_mem_take hmem)
  have hoffset := toInt_offset_start_of_nonneg base hspacing hfirst
  have hexact : 0 ≤ exactOffset axis spacing (sizes.take k) :=
    exactOffset_mono hspacing hsizes (Nat.zero_le k)
  -- The sum of the base and what is not negative does not stop at the least word.
  have hbase := Word.least_le_toInt (axis.coordinate base)
  have hstopped : 0 ≤ min Word.greatest (exactOffset axis spacing (sizes.take k)) :=
    le_min (by decide) hexact
  have hcoordinate : (axis.coordinate ((start axis base spacing).originAt sizes k)).toInt =
      max Word.least (min Word.greatest ((axis.coordinate base).toInt +
        ((start axis base spacing).advanceAll (sizes.take k)).offset.toInt)) :=
    (congrArg Int64.toInt (coordinate_originAt (start axis base spacing) sizes k)).trans
      (Word.toInt_add _ _)
  rw [hcoordinate, hoffset]
  exact max_eq_right (le_min (by decide) (by omega))

/-- The places of children, for every axis, base, spacing and sequence of sizes.  As long as all
    partial sums of extents and spacings are words, and so is the exact place of a child, the child
    stands there.  With no negative spacing and extent a child stands at the exact place, with sums
    stopped at the greatest word, and children never go back.  Across the axis they stand at the base.
    The offsets are those of `stackOffsets` for the same extents, where a negative extent counts as
    zero, and exchanging the axes exchanges the coordinates of the origins. -/
theorem stacking_offsets (axis : Axis) (base : Point) (spacing : Int64) (sizes : List Size) :
    let cursor := start axis base spacing
    let edge := (axis.coordinate base).toInt
    let exact := fun k => exactOffset axis spacing (sizes.take k)
    (∀ k, (cursor.origins sizes)[k]? =
      if k < sizes.length then some (cursor.originAt sizes k) else none) ∧
    ((∀ j, Word.InRange ((terms axis spacing sizes).take j).sum) →
      ∀ k, Word.InRange (edge + exact k) →
        (axis.coordinate (cursor.originAt sizes k)).toInt = edge + exact k) ∧
    (0 ≤ spacing → (∀ size ∈ sizes, 0 ≤ axis.extent size) →
      (∀ k, (axis.coordinate (cursor.originAt sizes k)).toInt =
        min Word.greatest (edge + min Word.greatest (exact k))) ∧
      (∀ j k, j ≤ k →
        axis.coordinate (cursor.originAt sizes j) ≤ axis.coordinate (cursor.originAt sizes k))) ∧
    (∀ k, axis.other.coordinate (cursor.originAt sizes k) = axis.other.coordinate base) ∧
    (∀ extents, sizes.map axis.extent = extents.map (max · 0) →
      stackOffsets (axis.coordinate base) extents spacing =
        (cursor.origins sizes).map axis.coordinate) ∧
    (start axis.other base.transposed spacing).origins (sizes.map Size.transposed) =
      (cursor.origins sizes).map Point.transposed := by
  intro cursor edge exact
  refine ⟨getElem?_origins cursor sizes, ?_, ?_, coordinate_other_originAt cursor sizes, ?_,
    origins_transposed cursor sizes⟩
  · intro hsums k hplace
    exact toInt_originAt hsums hplace
  · intro hspacing hsizes
    have hspacing' : 0 ≤ spacing.toInt := Int64.le_iff_toInt_le.mp hspacing
    have hsizes' : ∀ size ∈ sizes, 0 ≤ (axis.extent size).toInt :=
      fun size hmem => Int64.le_iff_toInt_le.mp (hsizes size hmem)
    have hclosed := toInt_originAt_of_nonneg base hspacing' hsizes'
    refine ⟨hclosed, fun j k hjk => ?_⟩
    have hmono := exactOffset_mono hspacing' hsizes' hjk
    rw [Int64.le_iff_toInt_le, hclosed j, hclosed k]
    omega
  · intro extents hextents
    have hheights : (extents.map (Size.clamped 0)).map Axis.vertical.extent =
        sizes.map axis.extent := by
      rw [hextents, List.map_map]
      rfl
    exact coordinates_origins_congr (c := start .vertical ⟨0, axis.coordinate base⟩ spacing)
      (d := cursor) rfl rfl rfl hheights

/-- A spacing may be negative as long as the sums are words, and a sum that stops stays. -/
example :
    stackOffsets 8 [46, -3, 46] (-10) = [8, 44, 34] ∧
    stackOffsets (-5) [Int64.maxValue, 7] 10 =
      [-5, Int64.maxValue - 5] := by
  decide

end StackCursor
end ScriptBridge
