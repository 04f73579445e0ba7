/-
  ScriptBridge/Proofs/Layout/Extent.lean
  ======================================
  **How far the children of a container reach.**

  The offset of a cursor counts a spacing after every child, the last one too,
  and the reported extent takes that one off again.  Both sums stop at the
  greatest word, but the offset stops first: once it has lost the spacing after
  the last child, that spacing is taken off all the same.  So with nothing
  negative the exact extent stops one spacing short of the greatest word, and a
  child that is larger than that does not fit into what its container reports.

  `reported_extent` says so, when the reported extent is the exact one stopped at
  the greatest word after all, and that a further child never makes it smaller.
  Across the axis the extent is that of the largest child.
-/
import Mathlib.Algebra.Order.BigOperators.Group.List
import Mathlib.Tactic.Ring
import ScriptBridge.Proofs.Layout.Offsets

namespace ScriptBridge

theorem Axis.extent_nonneg {size : Size} (hwidth : 0 ≤ size.width) (hheight : 0 ≤ size.height)
    (a : Axis) : 0 ≤ (a.extent size).toInt := by
  cases a with
  | vertical => exact Int64.le_iff_toInt_le.mp hheight
  | horizontal => exact Int64.le_iff_toInt_le.mp hwidth

namespace StackCursor

variable {axis : Axis} {spacing : Int64} {sizes : List Size}

/-- The size that a container reports for children of the given sizes. -/
def reported (axis : Axis) (base : Point) (spacing : Int64) (sizes : List Size) : Size :=
  ((start axis base spacing).advanceAll sizes).finish

/-- What children take up along the axis, with a spacing between any two of them. -/
def exactExtent (axis : Axis) (spacing : Int64) (sizes : List Size) : Int :=
  (sizes.map fun size => (axis.extent size).toInt).sum + ((sizes.length : Int) - 1) * spacing.toInt

theorem reported_nil (axis : Axis) (base : Point) (spacing : Int64) :
    reported axis base spacing [] = ⟨0, 0⟩ := by
  cases axis <;> rfl

/-! ### Along the axis -/

/-- The next child would stand one spacing beyond what the children take up. -/
theorem exactOffset_eq_exactExtent_add (axis : Axis) (spacing : Int64) (sizes : List Size) :
    exactOffset axis spacing sizes = exactExtent axis spacing sizes + spacing.toInt := by
  rw [exactOffset, exactExtent, List.sum_map_add, List.map_const', List.sum_replicate, nsmul_eq_mul]
  ring

theorem exactExtent_concat (axis : Axis) (spacing : Int64) (sizes : List Size) (size : Size) :
    exactExtent axis spacing (sizes ++ [size]) =
      exactExtent axis spacing sizes + (axis.extent size).toInt + spacing.toInt := by
  rw [exactExtent, exactExtent, List.map_append, List.sum_append, List.length_append]
  push_cast
  rw [List.map_singleton, List.sum_singleton, List.length_singleton]
  ring

theorem exactExtent_nonneg (hspacing : 0 ≤ spacing.toInt)
    (hsizes : ∀ size ∈ sizes, 0 ≤ (axis.extent size).toInt) (hne : sizes ≠ []) :
    0 ≤ exactExtent axis spacing sizes := by
  obtain ⟨size, rest, rfl⟩ := List.exists_cons_of_ne_nil hne
  have hsum : 0 ≤ ((size :: rest).map fun size => (axis.extent size).toInt).sum := by
    refine List.sum_nonneg fun n hn => ?_
    obtain ⟨size', hmem, rfl⟩ := List.mem_map.mp hn
    exact hsizes size' hmem
  have hspacings : 0 ≤ (((size :: rest).length : Int) - 1) * spacing.toInt := by
    rw [List.length_cons]
    push_cast
    rw [add_sub_cancel_right]
    exact Int.mul_nonneg (Int.natCast_nonneg _) hspacing
  exact Int.add_nonneg hsum hspacings

/-- With nothing negative, the extent along the axis stops one spacing short of the greatest word. -/
theorem toInt_extent_reported (base : Point) (hspacing : 0 ≤ spacing.toInt)
    (hsizes : ∀ size ∈ sizes, 0 ≤ (axis.extent size).toInt) (hne : sizes ≠ []) :
    (axis.extent (reported axis base spacing sizes)).toInt =
      min (Word.greatest - spacing.toInt) (exactExtent axis spacing sizes) := by
  have hfinish := (extent_finish ((start axis base spacing).advanceAll sizes)).1
  have hplaced : (start axis base spacing).placed + sizes.length ≠ 0 := by
    have hlength := List.length_pos_iff.mpr hne
    omega
  have haxis : (start axis base spacing).axis = axis := rfl
  have hdistance : (start axis base spacing).spacing = spacing := rfl
  rw [axis_advanceAll, spacing_advanceAll, placed_advanceAll, if_neg hplaced, haxis, hdistance,
    Word.toInt_sub, toInt_offset_start_of_nonneg base hspacing hsizes,
    exactOffset_eq_exactExtent_add] at hfinish
  have hexact := exactExtent_nonneg hspacing hsizes hne
  have hgreatest := Word.toInt_le_greatest spacing
  have hleast : Word.least ≤ 0 := by decide
  rw [reported, hfinish]
  omega

/-- With nothing negative, a further child never makes the extent along the axis smaller. -/
theorem extent_le_extent_concat (base : Point) (hspacing : 0 ≤ spacing.toInt)
    (hsizes : ∀ size ∈ sizes, 0 ≤ (axis.extent size).toInt) {size : Size}
    (hsize : 0 ≤ (axis.extent size).toInt) :
    (axis.extent (reported axis base spacing sizes)).toInt ≤
      (axis.extent (reported axis base spacing (sizes ++ [size]))).toInt := by
  have hsizes' : ∀ size' ∈ sizes ++ [size], 0 ≤ (axis.extent size').toInt := by
    intro size' hmem
    rcases List.mem_append.mp hmem with hmem | hmem
    · exact hsizes size' hmem
    · rwa [List.mem_singleton.mp hmem]
  have hne' : sizes ++ [size] ≠ [] := List.append_ne_nil_of_right_ne_nil sizes (List.cons_ne_nil size [])
  rw [toInt_extent_reported base hspacing hsizes' hne']
  rcases eq_or_ne sizes [] with rfl | hne
  · have hzero : (axis.extent (reported axis base spacing [])).toInt = 0 := by
      rw [reported_nil]
      cases axis <;> rfl
    have hexact := exactExtent_nonneg hspacing hsizes' hne'
    have hgreatest := Word.toInt_le_greatest spacing
    omega
  · rw [toInt_extent_reported base hspacing hsizes hne, exactExtent_concat]
    omega

/-! ### Across the axis -/

/-- The extent of a cursor across its axis is its own, or that of the largest child. -/
theorem cross_advanceAll (c : StackCursor) (sizes : List Size) :
    (∀ size ∈ sizes, (c.axis.other.extent size).toInt ≤ (c.advanceAll sizes).cross.toInt) ∧
      c.cross.toInt ≤ (c.advanceAll sizes).cross.toInt ∧
      ((c.advanceAll sizes).cross.toInt = c.cross.toInt ∨
        ∃ size ∈ sizes, (c.advanceAll sizes).cross.toInt = (c.axis.other.extent size).toInt) := by
  induction sizes generalizing c with
  | nil => exact ⟨fun size hmem => absurd hmem List.not_mem_nil, Int.le_refl _, Or.inl rfl⟩
  | cons first rest ih =>
    obtain ⟨hrest, hgrows, hreached⟩ := ih (c.advance first)
    have hstep := toInt_cross_advance c first
    rw [advance_axis] at hrest hreached
    rw [advanceAll_cons]
    refine ⟨fun size hmem => ?_, by omega, ?_⟩
    · rcases List.mem_cons.mp hmem with rfl | hmem
      · omega
      · exact hrest size hmem
    · rcases hreached with heq | ⟨size, hmem, heq⟩
      · rcases Int.le_total (c.axis.other.extent first).toInt c.cross.toInt with hle | hle
        · exact Or.inl (by omega)
        · exact Or.inr ⟨first, List.mem_cons_self, by omega⟩
      · exact Or.inr ⟨size, List.mem_cons_of_mem first hmem, heq⟩

theorem toInt_cross_reported (axis : Axis) (base : Point) (spacing : Int64) (sizes : List Size) :
    (axis.other.extent (reported axis base spacing sizes)).toInt =
      ((start axis base spacing).advanceAll sizes).cross.toInt := by
  have hfinish := (extent_finish ((start axis base spacing).advanceAll sizes)).2
  have hzero : (start axis base spacing).cross.toInt = 0 := rfl
  have haxis : (start axis base spacing).axis = axis := rfl
  have hcross := (cross_advanceAll (start axis base spacing) sizes).2.1
  rw [axis_advanceAll, haxis] at hfinish
  rw [reported, hfinish]
  omega

theorem cross_le_cross_concat (c : StackCursor) (sizes : List Size) (size : Size) :
    (c.advanceAll sizes).cross.toInt ≤ (c.advanceAll (sizes ++ [size])).cross.toInt := by
  have hconcat : c.advanceAll (sizes ++ [size]) = (c.advanceAll sizes).advance size := by
    rw [advanceAll, List.foldl_append]
    rfl
  rw [hconcat, toInt_cross_advance]
  exact Int.le_max_left _ _

/-- The extent of a container without negative sizes and spacing.  An empty one is 0 by 0.  Along the
    axis the exact extent of its children, without a spacing after the last one, stops one spacing short
    of the greatest word; it is the exact extent stopped at the greatest word only if there is no spacing
    or the exact extent leaves room for one.  Across the axis it is the extent of the largest child.  A
    further child never makes the container smaller. -/
theorem reported_extent (axis : Axis) (base : Point) (hspacing : 0 ≤ spacing)
    (hsizes : ∀ size ∈ sizes, 0 ≤ size.width ∧ 0 ≤ size.height) :
    let whole := reported axis base spacing sizes
    let exact := exactExtent axis spacing sizes
    (sizes = [] → whole = ⟨0, 0⟩) ∧
    (sizes ≠ [] →
      (axis.extent whole).toInt = min (Word.greatest - spacing.toInt) exact ∧
      ((axis.extent whole).toInt = min Word.greatest exact ↔
        spacing = 0 ∨ exact + spacing.toInt ≤ Word.greatest) ∧
      (∀ size ∈ sizes, axis.other.extent size ≤ axis.other.extent whole) ∧
      (∃ size ∈ sizes, axis.other.extent whole = axis.other.extent size)) ∧
    (∀ size : Size, 0 ≤ size.width → 0 ≤ size.height →
      ∀ a : Axis, a.extent whole ≤ a.extent (reported axis base spacing (sizes ++ [size]))) := by
  intro whole exact
  have hspacing' : 0 ≤ spacing.toInt := Int64.le_iff_toInt_le.mp hspacing
  have hextents : ∀ (a : Axis), ∀ size ∈ sizes, 0 ≤ (a.extent size).toInt := by
    intro a size hmem
    obtain ⟨hwidth, hheight⟩ := hsizes size hmem
    exact a.extent_nonneg hwidth hheight
  have hcross : (axis.other.extent whole).toInt =
      ((start axis base spacing).advanceAll sizes).cross.toInt :=
    toInt_cross_reported axis base spacing sizes
  obtain ⟨hwidest, -, hreached⟩ := cross_advanceAll (start axis base spacing) sizes
  refine ⟨?_, fun hne => ⟨?_, ?_, ?_, ?_⟩, ?_⟩
  · rintro rfl
    exact reported_nil axis base spacing
  · exact toInt_extent_reported base hspacing' (hextents axis) hne
  · rw [toInt_extent_reported base hspacing' (hextents axis) hne, ← Int64.toInt_inj, Int64.toInt_zero]
    omega
  · intro size hmem
    rw [Int64.le_iff_toInt_le, hcross]
    exact hwidest size hmem
  · have hzero : (start axis base spacing).cross.toInt = 0 := rfl
    rcases hreached with heq | ⟨size, hmem, heq⟩
    · -- No child is larger than nothing, so any of them will do.
      obtain ⟨size, hmem⟩ := List.exists_mem_of_ne_nil sizes hne
      refine ⟨size, hmem, Int64.toInt_inj.mp ?_⟩
      have hnarrow : (axis.other.extent size).toInt ≤ _ := hwidest size hmem
      have hextent := hextents axis.other size hmem
      omega
    · exact ⟨size, hmem, Int64.toInt_inj.mp (hcross.trans heq)⟩
  · intro size hwidth hheight a
    rw [Int64.le_iff_toInt_le]
    rcases axis.eq_or_eq_other a with rfl | rfl
    · exact extent_le_extent_concat base hspacing' (hextents a) (a.extent_nonneg hwidth hheight)
    · rw [hcross, toInt_cross_reported]
      exact cross_le_cross_concat _ sizes size

/-- A row that leaves no room for a spacing: what is reported ends with the first child. -/
theorem reported_extent_narrowRoom :
    let sizes : List Size := [⟨Int64.maxValue - 10, 46⟩, ⟨40, 60⟩]
    (0 : Int64) ≤ 10 ∧ (∀ size ∈ sizes, 0 ≤ size.width ∧ 0 ≤ size.height) ∧ sizes ≠ [] ∧
    exactExtent .horizontal 10 sizes = Word.greatest + 40 ∧
    (reported .horizontal ⟨8, 30⟩ 10 sizes).width.toInt = Word.greatest - 10 ∧
    (∃ size ∈ sizes, (reported .horizontal ⟨8, 30⟩ 10 sizes).height = size.height) := by
  intro sizes
  have hspacing : (0 : Int64) ≤ 10 := by decide
  have hsizes : ∀ size ∈ sizes, 0 ≤ size.width ∧ 0 ≤ size.height := by decide
  have hne : sizes ≠ [] := by decide
  have hexact : exactExtent .horizontal 10 sizes = Word.greatest + 40 := by decide
  obtain ⟨-, hextent, -⟩ := reported_extent .horizontal ⟨8, 30⟩ hspacing hsizes
  obtain ⟨hwidth, -, -, hheight⟩ := hextent hne
  rw [hexact] at hwidth
  exact ⟨hspacing, hsizes, hne, hexact, hwidth, hheight⟩

/-- A child as large as a word can say takes up exactly that, and its container reports less. -/
theorem reported_lt_exactExtent :
    let sizes : List Size := [⟨5, Int64.maxValue⟩]
    reported .vertical ⟨0, 0⟩ 10 sizes = ⟨5, Int64.maxValue - 10⟩ ∧
    min Word.greatest (exactExtent .vertical 10 sizes) = Int64.maxValue.toInt ∧
    (Axis.vertical.extent (reported .vertical ⟨0, 0⟩ 10 sizes)).toInt ≠
      min Word.greatest (exactExtent .vertical 10 sizes) := by
  decide

end StackCursor
end ScriptBridge
