/-
  ScriptBridge/Proofs/Layout/Block.lean
  =====================================
  **The geometry of a whole tree of containers.**

  A block is what became of a description: a widget with its frame, or a
  container with the frame around its blocks.  In a stacked block every container
  has its blocks in a row.  Then every block lies within every container around
  it, and because the blocks of one container keep their distance, widgets of
  different blocks never overlap, however deep they are.
-/
import Mathlib.Data.List.Pairwise
import ScriptBridge.Proofs.Layout.Stack
import ScriptBridge.Value.Basic

namespace ScriptBridge

/-- A part of a rendered description. -/
inductive Block where
  | widget (id : WidgetId) (frame : Frame)
  | stack (axis : Axis) (frame : Frame) (blocks : List Block)

namespace Block

/-- What holds of widgets, and of a container when it holds of its blocks, holds of every block. -/
@[elab_as_elim, induction_eliminator]
theorem induct {motive : Block → Prop} (widget : ∀ id frame, motive (.widget id frame))
    (stack : ∀ axis frame blocks, (∀ block ∈ blocks, motive block) → motive (.stack axis frame blocks))
    (block : Block) : motive block :=
  match block with
  | .widget id frame => widget id frame
  | .stack axis frame blocks => stack axis frame blocks fun block _ => induct widget stack block

def frame : Block → Frame
  | .widget _ frame => frame
  | .stack _ frame _ => frame

mutual

/-- The block and all blocks inside it. -/
def parts : Block → List Block
  | .widget id frame => [.widget id frame]
  | .stack axis frame blocks => .stack axis frame blocks :: partsAll blocks

def partsAll : List Block → List Block
  | [] => []
  | block :: rest => parts block ++ partsAll rest

end

mutual

/-- The widgets of a block, in document order. -/
def leaves : Block → List (WidgetId × Frame)
  | .widget id frame => [(id, frame)]
  | .stack _ _ blocks => leavesAll blocks

def leavesAll : List Block → List (WidgetId × Frame)
  | [] => []
  | block :: rest => leaves block ++ leavesAll rest

end

theorem partsAll_eq (blocks : List Block) : partsAll blocks = blocks.flatMap parts := by
  induction blocks with
  | nil => rfl
  | cons block rest ih => rw [partsAll, ih, List.flatMap_cons]

theorem leavesAll_eq (blocks : List Block) : leavesAll blocks = blocks.flatMap leaves := by
  induction blocks with
  | nil => rfl
  | cons block rest ih => rw [leavesAll, ih, List.flatMap_cons]

theorem leavesAll_append (blocks more : List Block) :
    leavesAll (blocks ++ more) = leavesAll blocks ++ leavesAll more := by
  simp only [leavesAll_eq, List.flatMap_append]

theorem mem_parts_self (block : Block) : block ∈ block.parts := by
  cases block with
  | widget id frame => exact List.mem_singleton.mpr rfl
  | stack axis frame blocks => exact List.mem_cons_self

theorem mem_parts_stack {axis : Axis} {frame : Frame} {blocks : List Block} {part : Block} :
    part ∈ (stack axis frame blocks).parts ↔
      part = stack axis frame blocks ∨ ∃ block ∈ blocks, part ∈ block.parts := by
  rw [parts, List.mem_cons, partsAll_eq, List.mem_flatMap]

/-! ### Blocks in a row -/

/-- Every container of the block has its blocks in a row and a frame around them. -/
inductive Stacked (spacing : Int64) : Block → Prop where
  | widget {id : WidgetId} {frame : Frame} (hsize : ∀ a : Axis, 0 ≤ (a.extent frame.size).toInt) :
      Stacked spacing (.widget id frame)
  | stack {axis : Axis} {base : Point} {blocks : List Block}
      (hplaces : (StackCursor.start axis base spacing).Places (blocks.map frame))
      (hblocks : ∀ block ∈ blocks, Stacked spacing block) :
      Stacked spacing
        (.stack axis (StackCursor.boundary axis base spacing (blocks.map frame)) blocks)

/-- The sums that a container forms for its blocks lie in the range of words. -/
def SumsFit (spacing : Int64) : Block → Prop
  | .widget _ _ => True
  | .stack axis frame blocks =>
    (StackCursor.start axis frame.origin spacing).FitsAll ((blocks.map Block.frame).map Frame.size)

instance decidableSumsFit (spacing : Int64) : (block : Block) → Decidable (block.SumsFit spacing)
  | .widget _ _ => isTrue trivial
  | .stack _ _ _ => inferInstanceAs (Decidable (StackCursor.FitsAll _ _))

variable {spacing : Int64} {root : Block}

theorem Stacked.extent_nonneg (h : root.Stacked spacing) (a : Axis) :
    0 ≤ (a.extent root.frame.size).toInt := by
  cases h with
  | widget hsize => exact hsize a
  | @stack axis base blocks hplaces hblocks =>
    have hfinish : ∀ c : StackCursor, 0 ≤ (a.extent c.finish).toInt := by
      intro c
      unfold StackCursor.finish
      cases c.axis <;> exact a.extent_clamped_nonneg _ _
    exact hfinish _

/-- The blocks of a container lie within it, and each keeps its distance to the next. -/
theorem Stacked.children {axis : Axis} {frame : Frame} {blocks : List Block}
    (h : (Block.stack axis frame blocks).Stacked spacing) (hspacing : 0 ≤ spacing.toInt)
    (hfit : (Block.stack axis frame blocks).SumsFit spacing) :
    (∀ block ∈ blocks, block.frame.Within frame) ∧
      blocks.Pairwise fun p q => axis.stop p.frame + spacing.toInt ≤ axis.start q.frame := by
  cases h with
  | @stack _ base _ hplaces hblocks =>
    have hsizes : ∀ f ∈ blocks.map Block.frame, ∀ a : Axis, 0 ≤ (a.extent f.size).toInt := by
      intro f hf
      obtain ⟨block, hblock, rfl⟩ := List.mem_map.mp hf
      exact (hblocks block hblock).extent_nonneg
    constructor
    · intro block hblock
      exact StackCursor.within_boundary hspacing hsizes hplaces hfit _
        (List.mem_map_of_mem hblock)
    · exact List.pairwise_map.mp (StackCursor.pairwise_places hspacing hsizes hplaces hfit)

/-- What is stacked is stacked all the way down. -/
theorem Stacked.of_mem_parts (h : root.Stacked spacing) :
    ∀ part ∈ root.parts, part.Stacked spacing := by
  induction h with
  | widget hsize =>
    intro part hpart
    rw [List.mem_singleton.mp hpart]
    exact .widget hsize
  | @stack axis base blocks hplaces hblocks ih =>
    intro part hpart
    rcases mem_parts_stack.mp hpart with rfl | ⟨block, hblock, hpart⟩
    · exact .stack hplaces hblocks
    · exact ih block hblock part hpart

theorem parts_subset {outer : Block} (houter : outer ∈ root.parts) : outer.parts ⊆ root.parts := by
  induction root with
  | widget id frame =>
    rw [List.mem_singleton.mp houter]
    exact List.Subset.refl _
  | stack axis frame blocks ih =>
    rcases mem_parts_stack.mp houter with rfl | ⟨block, hblock, houter⟩
    · exact List.Subset.refl _
    · intro part hpart
      exact mem_parts_stack.mpr (Or.inr ⟨block, hblock, ih block hblock houter hpart⟩)

/-! ### The whole tree -/

/-- A block lies within every container around it. -/
theorem Stacked.within (h : root.Stacked spacing) (hspacing : 0 ≤ spacing.toInt)
    (hfits : ∀ part ∈ root.parts, part.SumsFit spacing) :
    ∀ part ∈ root.parts, part.frame.Within root.frame := by
  induction h with
  | widget hsize =>
    intro part hpart
    rw [List.mem_singleton.mp hpart]
    exact .refl _
  | @stack axis base blocks hplaces hblocks ih =>
    obtain ⟨hwithin, -⟩ := (Stacked.stack hplaces hblocks).children hspacing
      (hfits _ (mem_parts_self _))
    intro part hpart
    rcases mem_parts_stack.mp hpart with rfl | ⟨block, hblock, hpart⟩
    · exact .refl _
    · have hinner := ih block hblock
        (fun p hp => hfits p (mem_parts_stack.mpr (Or.inr ⟨block, hblock, hp⟩))) part hpart
      exact hinner.trans (hwithin block hblock)

theorem widget_mem_parts {id : WidgetId} {frame : Frame} :
    widget id frame ∈ root.parts ↔ (id, frame) ∈ root.leaves := by
  induction root with
  | widget id' frame' => simp [parts, leaves]
  | stack axis outer blocks ih =>
    rw [mem_parts_stack, or_iff_right (fun h => by cases h), leaves, leavesAll_eq, List.mem_flatMap]
    exact exists_congr fun block => and_congr_right fun hblock => ih block hblock

/-- No two widgets of a tree overlap. -/
theorem Stacked.separate (h : root.Stacked spacing) (hspacing : 0 ≤ spacing.toInt)
    (hfits : ∀ part ∈ root.parts, part.SumsFit spacing) :
    root.leaves.Pairwise fun p q => p.2.Separate q.2 := by
  induction h with
  | widget hsize => exact List.pairwise_singleton _ _
  | @stack axis base blocks hplaces hblocks ih =>
    obtain ⟨-, hdistance⟩ := (Stacked.stack hplaces hblocks).children hspacing
      (hfits _ (mem_parts_self _))
    have hinner : ∀ block ∈ blocks, ∀ part ∈ block.parts, part.SumsFit spacing :=
      fun block hblock part hpart => hfits part (mem_parts_stack.mpr (Or.inr ⟨block, hblock, hpart⟩))
    rw [leaves, leavesAll_eq, List.pairwise_flatMap]
    refine ⟨fun block hblock => ih block hblock (hinner block hblock), ?_⟩
    refine hdistance.imp_of_mem fun {p q} hp hq hpq => ?_
    rintro ⟨id, f⟩ hf ⟨id', g⟩ hg
    -- Each widget lies within its block, and the blocks are a spacing apart.
    have hfp := (hblocks p hp).within hspacing (hinner p hp) _ (widget_mem_parts.mpr hf)
    have hgq := (hblocks q hq).within hspacing (hinner q hq) _ (widget_mem_parts.mpr hg)
    have hapart : p.frame.Separate q.frame := ⟨axis, Or.inl (by omega)⟩
    exact hapart.mono hfp hgq

theorem Stacked.separate_of_ne (h : root.Stacked spacing) (hspacing : 0 ≤ spacing.toInt)
    (hfits : ∀ part ∈ root.parts, part.SumsFit spacing) {id id' : WidgetId} {f g : Frame}
    (hf : Block.widget id f ∈ root.parts) (hg : Block.widget id' g ∈ root.parts) (hid : id ≠ id') :
    f.Separate g := by
  have hsymm : Std.Symm fun p q : WidgetId × Frame => p.2.Separate q.2 :=
    ⟨fun _ _ => Frame.Separate.symm⟩
  have hne : (id, f) ≠ (id', g) := fun heq => hid (congrArg Prod.fst heq)
  exact (h.separate hspacing hfits).forall (widget_mem_parts.mp hf) (widget_mem_parts.mp hg) hne

end Block
end ScriptBridge
