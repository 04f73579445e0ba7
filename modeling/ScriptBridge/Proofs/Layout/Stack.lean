/-
  ScriptBridge/Proofs/Layout/Stack.lean
  =====================================
  **Where a container puts its children.**

  A cursor adds words, and sums of words stop at the ends of the range.  As long
  as no sum gets there (`FitsAll`), the children of a container stand one after
  the other along its axis with the spacing between them, they all start at its
  edge across the axis, and they lie within the extent that the cursor reports.
  Frames are compared by the integers that their words stand for, so that the
  far edge of a frame needs no word of its own.
-/
import Mathlib.Data.Real.Basic
import Mathlib.Data.Set.BooleanAlgebra
import Mathlib.Order.CompletePartialOrder
import ScriptBridge.Layout.Stack

namespace ScriptBridge

/-! ### Words -/

namespace Word

/-- The number is the value of a word. -/
def InRange (n : Int) : Prop := least ≤ n ∧ n ≤ greatest

instance (n : Int) : Decidable (InRange n) := inferInstanceAs (Decidable (_ ∧ _))

theorem toInt_add_of_inRange {a b : Int64} (h : InRange (a.toInt + b.toInt)) :
    (add a b).toInt = a.toInt + b.toInt := by
  obtain ⟨hleast, hgreatest⟩ := h
  rw [toInt_add]
  omega

theorem toInt_sub_of_inRange {a b : Int64} (h : InRange (a.toInt - b.toInt)) :
    (sub a b).toInt = a.toInt - b.toInt := by
  obtain ⟨hleast, hgreatest⟩ := h
  rw [toInt_sub]
  omega

theorem toInt_max (a b : Int64) : (max a b).toInt = max a.toInt b.toInt := by
  have hmax : max a b = if a ≤ b then b else a := rfl
  rw [hmax]
  split
  · next h =>
    have hle := Int64.le_iff_toInt_le.mp h
    omega
  · next h =>
    have hlt : ¬ a.toInt ≤ b.toInt := fun hle => h (Int64.le_iff_toInt_le.mpr hle)
    omega

end Word

/-! ### Edges -/

namespace Axis

/-- The axis at a right angle to this one. -/
def other : Axis → Axis
  | .vertical => .horizontal
  | .horizontal => .vertical

/-- The position of a point along the axis. -/
def coordinate : Axis → Point → Int64
  | .vertical, p => p.y
  | .horizontal, p => p.x

/-- The near edge of a frame. -/
def start (a : Axis) (f : Frame) : Int := (a.coordinate f.origin).toInt

/-- The far edge of a frame. -/
def stop (a : Axis) (f : Frame) : Int := a.start f + (a.extent f.size).toInt

theorem start_of (a : Axis) (origin : Point) (size : Size) :
    a.start (.of origin size) = (a.coordinate origin).toInt := rfl

theorem stop_of (a : Axis) (origin : Point) (size : Size) :
    a.stop (.of origin size) = (a.coordinate origin).toInt + (a.extent size).toInt := rfl

theorem crossExtent_eq (a : Axis) (s : Size) : a.crossExtent s = a.other.extent s := by
  cases a <;> rfl

theorem eq_or_eq_other (a b : Axis) : b = a ∨ b = a.other := by
  cases a <;> cases b <;> decide

theorem extent_clamped_nonneg (a : Axis) (width height : Int64) :
    0 ≤ (a.extent (.clamped width height)).toInt := by
  have hzero : (0 : Int64).toInt = 0 := by decide
  cases a <;> simp only [extent, Size.clamped, Word.toInt_max] <;> omega

end Axis

namespace Frame

variable {f g h : Frame}

theorem origin_of (origin : Point) (size : Size) : (Frame.of origin size).origin = origin := rfl

theorem size_of (origin : Point) (size : Size) : (Frame.of origin size).size = size := rfl

/-- No edge of the frame lies outside the other. -/
def Within (f g : Frame) : Prop := ∀ a : Axis, a.start g ≤ a.start f ∧ a.stop f ≤ a.stop g

/-- Along one of the axes, one frame ends before the other starts. -/
def Separate (f g : Frame) : Prop := ∃ a : Axis, a.stop f ≤ a.start g ∨ a.stop g ≤ a.start f

/-- The points of the plane inside the edges of a frame. -/
def interior (f : Frame) : Set (ℝ × ℝ) :=
  { p | (Axis.horizontal.start f : ℝ) < p.1 ∧ p.1 < Axis.horizontal.stop f ∧
    (Axis.vertical.start f : ℝ) < p.2 ∧ p.2 < Axis.vertical.stop f }

theorem Within.refl (f : Frame) : f.Within f := fun _ => ⟨le_rfl, le_rfl⟩

theorem Within.trans (hfg : f.Within g) (hgh : g.Within h) : f.Within h := fun a =>
  ⟨(hgh a).1.trans (hfg a).1, (hfg a).2.trans (hgh a).2⟩

theorem Separate.symm (hfg : f.Separate g) : g.Separate f := by
  obtain ⟨a, ha⟩ := hfg
  exact ⟨a, ha.symm⟩

/-- What lies within separate frames is separate. -/
theorem Separate.mono {f' g' : Frame} (hfg : f.Separate g) (hf : f'.Within f) (hg : g'.Within g) :
    f'.Separate g' := by
  obtain ⟨a, ha | ha⟩ := hfg
  · exact ⟨a, Or.inl ((hf a).2.trans (ha.trans (hg a).1))⟩
  · exact ⟨a, Or.inr ((hg a).2.trans (ha.trans (hf a).1))⟩

theorem Separate.disjoint_interior (hfg : f.Separate g) : Disjoint f.interior g.interior := by
  rw [Set.disjoint_left]
  rintro ⟨x, y⟩ ⟨hfx, hfx', hfy, hfy'⟩ ⟨hgx, hgx', hgy, hgy'⟩
  obtain ⟨a, ha | ha⟩ := hfg <;> cases a
  · have hedge : (Axis.vertical.stop f : ℝ) ≤ Axis.vertical.start g := by exact_mod_cast ha
    exact absurd (hfy'.trans_le hedge) (not_lt.mpr hgy.le)
  · have hedge : (Axis.horizontal.stop f : ℝ) ≤ Axis.horizontal.start g := by exact_mod_cast ha
    exact absurd (hfx'.trans_le hedge) (not_lt.mpr hgx.le)
  · have hedge : (Axis.vertical.stop g : ℝ) ≤ Axis.vertical.start f := by exact_mod_cast ha
    exact absurd (hgy'.trans_le hedge) (not_lt.mpr hfy.le)
  · have hedge : (Axis.horizontal.stop g : ℝ) ≤ Axis.horizontal.start f := by exact_mod_cast ha
    exact absurd (hgx'.trans_le hedge) (not_lt.mpr hfx.le)

end Frame

/-! ### Exact sums -/

namespace StackCursor

/-- The sums that are formed for a child of the given size lie in the range of words. -/
def Fits (c : StackCursor) (size : Size) : Prop :=
  Word.InRange ((c.axis.coordinate c.base).toInt + c.offset.toInt) ∧
    Word.InRange (c.offset.toInt + (c.axis.extent size).toInt) ∧
    Word.InRange (c.offset.toInt + (c.axis.extent size).toInt + c.spacing.toInt)

/-- The sums that are formed for children of the given sizes, one after the other, lie in the range
    of words. -/
def FitsAll (c : StackCursor) : List Size → Prop
  | [] => True
  | size :: rest => c.Fits size ∧ (c.advance size).FitsAll rest

instance (c : StackCursor) (size : Size) : Decidable (c.Fits size) :=
  inferInstanceAs (Decidable (_ ∧ _ ∧ _))

instance decidableFitsAll (c : StackCursor) : (sizes : List Size) → Decidable (c.FitsAll sizes)
  | [] => isTrue trivial
  | size :: rest =>
    have := decidableFitsAll (c.advance size) rest
    inferInstanceAs (Decidable (_ ∧ _))

variable {c : StackCursor} {size : Size}

theorem advance_axis (c : StackCursor) (size : Size) : (c.advance size).axis = c.axis := by
  simp only [advance]

theorem advance_base (c : StackCursor) (size : Size) : (c.advance size).base = c.base := by
  simp only [advance]

theorem advance_spacing (c : StackCursor) (size : Size) : (c.advance size).spacing = c.spacing := by
  simp only [advance]

theorem advanceAll_nil (c : StackCursor) : c.advanceAll [] = c := by
  simp only [advanceAll, List.foldl_nil]

theorem advanceAll_cons (c : StackCursor) (size : Size) (rest : List Size) :
    c.advanceAll (size :: rest) = (c.advance size).advanceAll rest := by
  simp only [advanceAll, List.foldl_cons]

theorem coordinate_next (c : StackCursor) :
    c.axis.coordinate c.next = Word.add (c.axis.coordinate c.base) c.offset := by
  unfold next
  cases c.axis <;> rfl

theorem coordinate_other_next (c : StackCursor) :
    c.axis.other.coordinate c.next = c.axis.other.coordinate c.base := by
  unfold next
  cases c.axis <;> rfl

theorem toInt_offset_advance_of_inRange
    (hextent : Word.InRange (c.offset.toInt + (c.axis.extent size).toInt))
    (hspacing : Word.InRange (c.offset.toInt + (c.axis.extent size).toInt + c.spacing.toInt)) :
    (c.advance size).offset.toInt =
      c.offset.toInt + (c.axis.extent size).toInt + c.spacing.toInt := by
  have hsum := Word.toInt_add_of_inRange hextent
  rw [← hsum] at hspacing ⊢
  exact Word.toInt_add_of_inRange hspacing

theorem toInt_offset_advance (h : c.Fits size) :
    (c.advance size).offset.toInt =
      c.offset.toInt + (c.axis.extent size).toInt + c.spacing.toInt := by
  obtain ⟨-, hextent, hspacing⟩ := h
  exact toInt_offset_advance_of_inRange hextent hspacing

theorem toInt_cross_advance (c : StackCursor) (size : Size) :
    (c.advance size).cross.toInt = max c.cross.toInt (c.axis.other.extent size).toInt := by
  rw [← Axis.crossExtent_eq]
  exact Word.toInt_max _ _

theorem toInt_coordinate_next (h : c.Fits size) :
    (c.axis.coordinate c.next).toInt = (c.axis.coordinate c.base).toInt + c.offset.toInt := by
  rw [coordinate_next]
  exact Word.toInt_add_of_inRange h.1

/-! ### Children in a row -/

/-- The frames are those of children that the cursor places one after the other. -/
def Places (c : StackCursor) : List Frame → Prop
  | [] => True
  | f :: rest => f.origin = c.next ∧ (c.advance f.size).Places rest

variable {frames : List Frame}

/-- With sums in range, a cursor only moves forward. -/
theorem le_advanceAll (hspacing : 0 ≤ c.spacing.toInt)
    (hsizes : ∀ f ∈ frames, ∀ a : Axis, 0 ≤ (a.extent f.size).toInt)
    (hfits : c.FitsAll (frames.map Frame.size)) :
    c.offset.toInt ≤ (c.advanceAll (frames.map Frame.size)).offset.toInt ∧
      c.cross.toInt ≤ (c.advanceAll (frames.map Frame.size)).cross.toInt := by
  induction frames generalizing c with
  | nil => exact ⟨le_rfl, le_rfl⟩
  | cons f rest ih =>
    obtain ⟨hfit, hrest⟩ := hfits
    have hoffset := toInt_offset_advance hfit
    have hcross := toInt_cross_advance c f.size
    have hextent := hsizes f List.mem_cons_self c.axis
    obtain ⟨hoffset', hcross'⟩ := ih (c := c.advance f.size)
      (by rwa [advance_spacing]) (fun g hg => hsizes g (List.mem_cons_of_mem f hg)) hrest
    rw [List.map_cons, advanceAll_cons]
    constructor <;> omega

/-- Every child starts at or after the cursor. -/
theorem offset_le_start (hspacing : 0 ≤ c.spacing.toInt)
    (hsizes : ∀ f ∈ frames, ∀ a : Axis, 0 ≤ (a.extent f.size).toInt)
    (hplaces : c.Places frames) (hfits : c.FitsAll (frames.map Frame.size)) :
    ∀ f ∈ frames, (c.axis.coordinate c.base).toInt + c.offset.toInt ≤ c.axis.start f := by
  induction frames generalizing c with
  | nil => exact fun f hf => absurd hf List.not_mem_nil
  | cons f rest ih =>
    obtain ⟨horigin, hplaces'⟩ := hplaces
    obtain ⟨hfit, hrest⟩ := hfits
    intro g hg
    rcases List.mem_cons.mp hg with rfl | hg
    · rw [Axis.start, horigin, toInt_coordinate_next hfit]
    · have hoffset := toInt_offset_advance hfit
      have hextent := hsizes f List.mem_cons_self c.axis
      have hlater := ih (c := c.advance f.size) (by rwa [advance_spacing])
        (fun g hg => hsizes g (List.mem_cons_of_mem f hg)) hplaces' hrest g hg
      rw [advance_axis, advance_base] at hlater
      omega

/-- Any child ends, with the spacing after it, before a later one starts. -/
theorem pairwise_places (hspacing : 0 ≤ c.spacing.toInt)
    (hsizes : ∀ f ∈ frames, ∀ a : Axis, 0 ≤ (a.extent f.size).toInt)
    (hplaces : c.Places frames) (hfits : c.FitsAll (frames.map Frame.size)) :
    frames.Pairwise fun f g => c.axis.stop f + c.spacing.toInt ≤ c.axis.start g := by
  induction frames generalizing c with
  | nil => exact .nil
  | cons f rest ih =>
    obtain ⟨horigin, hplaces'⟩ := hplaces
    obtain ⟨hfit, hrest⟩ := hfits
    have hspacing' : 0 ≤ (c.advance f.size).spacing.toInt := by rwa [advance_spacing]
    have hsizes' : ∀ g ∈ rest, ∀ a : Axis, 0 ≤ (a.extent g.size).toInt :=
      fun g hg => hsizes g (List.mem_cons_of_mem f hg)
    have hlater := ih hspacing' hsizes' hplaces' hrest
    rw [advance_axis, advance_spacing] at hlater
    refine .cons (fun g hg => ?_) hlater
    have hstart := offset_le_start hspacing' hsizes' hplaces' hrest g hg
    rw [advance_axis, advance_base, toInt_offset_advance hfit] at hstart
    rw [Axis.stop, Axis.start, horigin, toInt_coordinate_next hfit]
    omega

/-- Every child lies at the edge across the axis and before the cursor that comes after all. -/
theorem stop_le_advanceAll (hspacing : 0 ≤ c.spacing.toInt)
    (hsizes : ∀ f ∈ frames, ∀ a : Axis, 0 ≤ (a.extent f.size).toInt)
    (hplaces : c.Places frames) (hfits : c.FitsAll (frames.map Frame.size)) :
    ∀ f ∈ frames,
      c.axis.stop f + c.spacing.toInt ≤ (c.axis.coordinate c.base).toInt +
        (c.advanceAll (frames.map Frame.size)).offset.toInt ∧
      c.axis.other.start f = (c.axis.other.coordinate c.base).toInt ∧
      (c.axis.other.extent f.size).toInt ≤ (c.advanceAll (frames.map Frame.size)).cross.toInt := by
  induction frames generalizing c with
  | nil => exact fun f hf => absurd hf List.not_mem_nil
  | cons f rest ih =>
    obtain ⟨horigin, hplaces'⟩ := hplaces
    obtain ⟨hfit, hrest⟩ := hfits
    have hspacing' : 0 ≤ (c.advance f.size).spacing.toInt := by rwa [advance_spacing]
    have hsizes' : ∀ g ∈ rest, ∀ a : Axis, 0 ≤ (a.extent g.size).toInt :=
      fun g hg => hsizes g (List.mem_cons_of_mem f hg)
    rw [List.map_cons, advanceAll_cons]
    intro g hg
    rcases List.mem_cons.mp hg with rfl | hg
    · obtain ⟨hoffset, hcross⟩ := le_advanceAll hspacing' hsizes' hrest
      rw [toInt_offset_advance hfit] at hoffset
      rw [toInt_cross_advance] at hcross
      refine ⟨?_, ?_, by omega⟩
      · rw [Axis.stop, Axis.start, horigin, toInt_coordinate_next hfit]
        omega
      · rw [Axis.start, horigin, coordinate_other_next]
    · have hlater := ih hspacing' hsizes' hplaces' hrest g hg
      rwa [advance_axis, advance_base, advance_spacing] at hlater

/-! ### The extent of a container -/

theorem axis_advanceAll (c : StackCursor) (sizes : List Size) : (c.advanceAll sizes).axis = c.axis := by
  induction sizes generalizing c with
  | nil => rfl
  | cons size rest ih => rw [advanceAll_cons, ih, advance_axis]

theorem base_advanceAll (c : StackCursor) (sizes : List Size) : (c.advanceAll sizes).base = c.base := by
  induction sizes generalizing c with
  | nil => rfl
  | cons size rest ih => rw [advanceAll_cons, ih, advance_base]

theorem spacing_advanceAll (c : StackCursor) (sizes : List Size) :
    (c.advanceAll sizes).spacing = c.spacing := by
  induction sizes generalizing c with
  | nil => rfl
  | cons size rest ih => rw [advanceAll_cons, ih, advance_spacing]

theorem placed_advanceAll (c : StackCursor) (sizes : List Size) :
    (c.advanceAll sizes).placed = c.placed + sizes.length := by
  induction sizes generalizing c with
  | nil => rfl
  | cons size rest ih =>
    rw [advanceAll_cons, ih, List.length_cons]
    simp only [advance]
    omega

theorem extent_finish (c : StackCursor) :
    (c.axis.extent c.finish).toInt =
        max (if c.placed = 0 then 0 else Word.sub c.offset c.spacing).toInt 0 ∧
      (c.axis.other.extent c.finish).toInt = max c.cross.toInt 0 := by
  have hzero : (0 : Int64).toInt = 0 := by decide
  unfold finish
  cases c.axis <;>
    simp only [Axis.other, Axis.extent, Size.clamped, Word.toInt_max, hzero, and_self]

/-- The frame of a container whose children the cursor placed. -/
def boundary (axis : Axis) (base : Point) (spacing : Int64) (frames : List Frame) : Frame :=
  .of base ((start axis base spacing).advanceAll (frames.map Frame.size)).finish

/-- The children of a container lie within its frame. -/
theorem within_boundary {axis : Axis} {base : Point} {spacing : Int64} (hspacing : 0 ≤ spacing.toInt)
    (hsizes : ∀ f ∈ frames, ∀ a : Axis, 0 ≤ (a.extent f.size).toInt)
    (hplaces : (start axis base spacing).Places frames)
    (hfits : (start axis base spacing).FitsAll (frames.map Frame.size)) :
    ∀ f ∈ frames, f.Within (boundary axis base spacing frames) := by
  intro f hf a
  have hfinish := extent_finish ((start axis base spacing).advanceAll (frames.map Frame.size))
  have hnear := offset_le_start hspacing hsizes hplaces hfits f hf
  obtain ⟨hfar, hedge, hcross⟩ := stop_le_advanceAll hspacing hsizes hplaces hfits f hf
  have hplaced := placed_advanceAll (start axis base spacing) (frames.map Frame.size)
  have hlength := List.length_pos_of_mem hf
  rw [List.length_map] at hplaced
  rw [axis_advanceAll, spacing_advanceAll, if_neg (by omega)] at hfinish
  rw [boundary, Axis.start_of, Axis.stop_of]
  generalize (start axis base spacing).advanceAll (frames.map Frame.size) = c' at *
  simp only [start] at hnear hfar hedge hcross hfinish
  have hzero : (0 : Int64).toInt = 0 := by decide
  have hextent := hsizes f hf
  have hgreatest := Word.toInt_le_greatest c'.offset
  have hleast : Word.least ≤ 0 := by decide
  -- What the child takes, with the spacing after it, is part of the offset.
  rcases axis.eq_or_eq_other a with rfl | rfl
  · have halong := hextent a
    rw [Axis.stop] at hfar ⊢
    have hsub : (Word.sub c'.offset spacing).toInt = c'.offset.toInt - spacing.toInt :=
      Word.toInt_sub_of_inRange ⟨by omega, by omega⟩
    omega
  · have hacross := hextent axis.other
    rw [Axis.stop, hedge]
    omega

end StackCursor
end ScriptBridge
