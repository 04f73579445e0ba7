/-
  ScriptBridge/Proofs/Bridge/Arrangement.lean
  ===========================================
  **Where a render puts its widgets.**

  A render keeps only a cursor while it walks a description.  The arrangement of
  a render is the tree of blocks that this walk makes: each placed widget with
  its frame, and each container with the size that the walk computes for it.  A
  leaf that the platform refuses makes no block.

  `rendered_placed` says that the widgets of the arrangement are those that the
  records say were placed, with the frames of the records.  `rendered_stacked`
  says that the blocks of each container stand in a row, as long as nothing in a
  column is moved to the edge of the window.  `layout_geometry` puts both
  together with the geometry of stacked blocks.
-/
import ScriptBridge.Proofs.Bridge.Build
import ScriptBridge.Proofs.Bridge.Chronicle
import ScriptBridge.Proofs.Layout.Block

namespace ScriptBridge

/-- No input and no table stands directly in a column. -/
inductive Descriptor.Aligned : Descriptor → Prop where
  | leaf (kind : WidgetKind) (a : Attributes) : Aligned (.leaf kind a)
  | container {axis : Axis} {name : Option String} {children : List Descriptor}
      (hdirect : axis = .vertical → ∀ kind a, .leaf kind a ∈ children → kind.autoMeasured = false)
      (hchildren : ∀ d ∈ children, Aligned d) : Aligned (.container axis name children)

/-! ### Rows of blocks -/

namespace StackCursor

variable {c c' c'' : StackCursor}

theorem places_append {frames more : List Frame} :
    c.Places (frames ++ more) ↔
      c.Places frames ∧ (c.advanceAll (frames.map Frame.size)).Places more := by
  induction frames generalizing c with
  | nil => simp [Places, advanceAll_nil]
  | cons f rest ih =>
    rw [List.cons_append, Places, Places, ih, List.map_cons, advanceAll_cons, and_assoc]

/-- A cursor that placed some blocks one after the other. -/
structure Row (spacing : Int64) (c c' : StackCursor) (blocks : List Block) : Prop where
  cursor : c' = c.advanceAll ((blocks.map Block.frame).map Frame.size)
  places : c.Places (blocks.map Block.frame)
  stacked : ∀ block ∈ blocks, block.Stacked spacing

namespace Row

variable {spacing : Int64} {blocks more : List Block}

theorem nil (c : StackCursor) : Row spacing c c [] where
  cursor := rfl
  places := trivial
  stacked _ h := absurd h List.not_mem_nil

theorem single {block : Block} {size : Size} (hblock : block.Stacked spacing)
    (hframe : block.frame = .of c.next size) : Row spacing c (c.advance size) [block] where
  cursor := by
    rw [List.map_singleton, List.map_singleton, hframe, Frame.size_of, advanceAll_cons]
    rfl
  places := ⟨by rw [hframe, Frame.origin_of], trivial⟩
  stacked := by simpa using hblock

theorem append (h : Row spacing c c' blocks) (h' : Row spacing c' c'' more) :
    Row spacing c c'' (blocks ++ more) where
  cursor := by
    rw [h'.cursor, h.cursor, List.map_append, List.map_append]
    exact List.foldl_append.symm
  places := by
    rw [List.map_append, places_append, ← h.cursor]
    exact ⟨h.places, h'.places⟩
  stacked block hblock := (List.mem_append.mp hblock).elim (h.stacked block) (h'.stacked block)

/-- The blocks of a container, with the frame that it gets from its cursor. -/
theorem stack {axis : Axis} {base : Point} (h : Row spacing (start axis base spacing) c' blocks) :
    (Block.stack axis (.of base c'.finish) blocks).Stacked spacing := by
  rw [h.cursor]
  exact .stack h.places h.stacked

end Row
end StackCursor

/-! ### Placed records -/

namespace WidgetTable

variable {t t' t'' : WidgetTable}

/-- The record says that the widget was placed in the frame. -/
def Placed (t : WidgetTable) (id : WidgetId) (frame : Frame) : Prop :=
  ∃ w, t.find? id = some w ∧ w.state = .placed ∧ w.frame = frame

/-- The table was added to: what was born keeps its record, and of the others some were placed. -/
structure Adds (t t' : WidgetTable) (placed : List (WidgetId × Frame)) : Prop where
  kept : ∀ id, t.stateOf id ≠ .unborn → t'.find? id = t.find? id
  placed_iff : ∀ id frame, (id, frame) ∈ placed ↔ t.stateOf id = .unborn ∧ t'.Placed id frame

theorem Placed.stateOf {id : WidgetId} {frame : Frame} (h : t.Placed id frame) :
    t.stateOf id = .placed := by
  obtain ⟨w, hw, hstate, -⟩ := h
  rw [stateOf_of_find? hw, hstate]

theorem stateOf_congr {id : WidgetId} (h : t'.find? id = t.find? id) : t'.stateOf id = t.stateOf id := by
  rw [WidgetTable.stateOf, h, WidgetTable.stateOf]

theorem placed_congr {id : WidgetId} (h : t'.find? id = t.find? id) (frame : Frame) :
    t'.Placed id frame ↔ t.Placed id frame := by
  rw [Placed, h, Placed]

namespace Adds

theorem refl (t : WidgetTable) : Adds t t [] where
  kept _ _ := rfl
  placed_iff id frame := by
    refine iff_of_false List.not_mem_nil fun ⟨hunborn, hplaced⟩ => ?_
    rw [hplaced.stateOf] at hunborn
    cases hunborn

theorem append {placed more : List (WidgetId × Frame)} (h : Adds t t' placed)
    (h' : Adds t' t'' more) : Adds t t'' (placed ++ more) where
  kept id hborn := by
    have hborn' : t'.stateOf id ≠ .unborn := by rwa [stateOf_congr (h.kept id hborn)]
    rw [h'.kept id hborn', h.kept id hborn]
  placed_iff id frame := by
    rw [List.mem_append, h.placed_iff, h'.placed_iff]
    by_cases hunborn : t.stateOf id = .unborn
    · by_cases hunborn' : t'.stateOf id = .unborn
      · -- Not placed by the first part, so only the second can have placed it.
        have hnot : ¬ t'.Placed id frame := fun hplaced => by
          rw [hplaced.stateOf] at hunborn'
          cases hunborn'
        simp [hunborn, hunborn', hnot]
      · simp [hunborn, hunborn', placed_congr (h'.kept id hunborn')]
    · have hborn' : t'.stateOf id ≠ .unborn := by rwa [stateOf_congr (h.kept id hunborn)]
      simp [hunborn, hborn']

/-- One new record; its widget may have been placed. -/
theorem fresh {id : WidgetId} {w : WidgetRecord} (hfresh : t.stateOf id = .unborn)
    (hw : t'.find? id = some w) (hother : ∀ id', id ≠ id' → t'.find? id' = t.find? id') :
    Adds t t' (if w.state = .placed then [(id, w.frame)] else []) where
  kept id' hborn := hother id' fun hid => hborn (hid ▸ hfresh)
  placed_iff id' frame := by
    by_cases hid : id = id'
    · subst hid
      have hplaced : t'.Placed id frame ↔ w.state = .placed ∧ w.frame = frame := by
        rw [Placed, hw]
        exact ⟨fun ⟨v, hv, h⟩ => Option.some.inj hv ▸ h, fun h => ⟨w, rfl, h⟩⟩
      rw [hplaced]
      split <;> simp_all [eq_comm]
    · have hold : ¬ (t.stateOf id' = .unborn ∧ t'.Placed id' frame) := by
        rintro ⟨hunborn, hplaced⟩
        rw [placed_congr (hother id' hid)] at hplaced
        rw [hplaced.stateOf] at hunborn
        cases hunborn
      refine iff_of_false (fun hmem => ?_) hold
      split at hmem
      · exact hid (congrArg Prod.fst (List.mem_singleton.mp hmem)).symm
      · exact List.not_mem_nil hmem

end Adds
end WidgetTable

namespace BridgeState

variable {σ η κ : Type}

/-! ### The blocks of a render -/

mutual

/-- The block that a child of a container becomes; a refused leaf becomes none. -/
def childBlock (platform : Platform σ) (layout : LayoutConfig) (context : Value)
    (cursor : StackCursor) (d : Descriptor) (r : Rendering) (b : BridgeState σ η κ) : Option Block :=
  match d with
  | .leaf kind a =>
    match b.build platform context (.ofLeaf kind a (childOrigin layout cursor kind)) r with
    | (.ok handle, _, _) =>
      some (.widget handle.id
        (.of (childOrigin layout cursor kind) (.clamped handle.width handle.height)))
    | (.error _, _, _) => none
  | .container axis _ children =>
    let start := StackCursor.start axis cursor.next layout.spacing
    some (.stack axis
      (.of cursor.next (renderChildren platform layout context start children r b).1.finish)
      (childBlocks platform layout context start children r b))

/-- The blocks that the children of a container become. -/
def childBlocks (platform : Platform σ) (layout : LayoutConfig) (context : Value)
    (cursor : StackCursor) (children : List Descriptor) (r : Rendering) (b : BridgeState σ η κ) :
    List Block :=
  match children with
  | [] => []
  | d :: rest =>
    let (cursor', r', b') := renderChild platform layout context cursor d r b
    (childBlock platform layout context cursor d r b).toList ++
      childBlocks platform layout context cursor' rest r' b'

end

/-- The block that a container at the root becomes. -/
def arrangement (platform : Platform σ) (layout : LayoutConfig) (context : Value) (axis : Axis)
    (children : List Descriptor) (b : BridgeState σ η κ) : Block :=
  let start := StackCursor.start axis layout.rootOrigin layout.spacing
  .stack axis
    (.of layout.rootOrigin (renderChildren platform layout context start children .empty b).1.finish)
    (childBlocks platform layout context start children .empty b)

variable {platform : Platform σ} {layout : LayoutConfig} {context : Value}

/-- Outside a column, and for what the platform measures from its text, a child goes to the cursor. -/
theorem childOrigin_eq_next {cursor : StackCursor} {kind : WidgetKind}
    (h : cursor.axis = .vertical → kind.autoMeasured = false) :
    childOrigin layout cursor kind = cursor.next := by
  unfold childOrigin
  refine if_neg fun ⟨haxis, hmeasured⟩ => ?_
  rw [h haxis] at hmeasured
  cases hmeasured

/-- The blocks of a container stand in a row, and so do the blocks in them. -/
theorem row_childBlocks (cursor : StackCursor) (children : List Descriptor) (r : Rendering)
    (b : BridgeState σ η κ) (haligned : ∀ d ∈ children, d.Aligned)
    (hdirect : cursor.axis = .vertical →
      ∀ kind a, .leaf kind a ∈ children → kind.autoMeasured = false) :
    StackCursor.Row layout.spacing cursor
      (renderChildren platform layout context cursor children r b).1
      (childBlocks platform layout context cursor children r b) := by
  induction cursor, children, r, b
    using renderChildren.induct platform layout context fun cursor d r b =>
      d.Aligned → (cursor.axis = .vertical → ∀ kind a, d = .leaf kind a → kind.autoMeasured = false) →
        StackCursor.Row layout.spacing cursor
          (renderChild platform layout context cursor d r b).1
          (childBlock platform layout context cursor d r b).toList with
  | case1 cursor r b kind a handle r' b' hbuild hd hdirect =>
    simp only [renderChild, childBlock, hbuild, Option.toList_some]
    refine .single (.widget fun a => a.extent_clamped_nonneg _ _) ?_
    rw [Block.frame, childOrigin_eq_next fun haxis => hdirect haxis kind a rfl]
  | case2 cursor r b kind a e r' b' hbuild hd hdirect =>
    simp only [renderChild, childBlock, hbuild, Option.toList_none]
    exact .nil cursor
  | case3 cursor r b axis name children inner r' b' hinner ih hd hdirect =>
    cases hd with
    | container hcolumn hchildren =>
      have hrow := ih hchildren hcolumn
      rw [hinner] at hrow
      simp only [renderChild, childBlock, hinner, Option.toList_some]
      exact .single hrow.stack (by rw [Block.frame])
  | case4 cursor r b =>
    simp only [renderChildren, childBlocks]
    exact .nil cursor
  | case5 cursor r b d rest cursor' r' b' hchild ihchild ih =>
    have hfirst := ihchild (haligned d List.mem_cons_self)
      fun haxis kind a hd => hdirect haxis kind a (hd ▸ List.mem_cons_self)
    rw [hchild] at hfirst
    have haxis : cursor'.axis = cursor.axis :=
      (congrArg StackCursor.axis hfirst.cursor).trans (StackCursor.axis_advanceAll _ _)
    simp only [renderChildren, childBlocks, hchild]
    refine hfirst.append (ih (fun d hd => haligned d (List.mem_cons_of_mem _ hd)) ?_)
    intro hvertical kind a hmem
    exact hdirect (haxis ▸ hvertical) kind a (List.mem_cons_of_mem d hmem)

/-- A build that succeeds places one new widget. -/
theorem adds_of_build_ok {plan : WidgetPlan} {r r' : Rendering} {b b' : BridgeState σ η κ}
    {handle : WidgetHandle} (h : b.build platform context plan r = (.ok handle, r', b')) :
    WidgetTable.Adds b.widgets b'.widgets [(handle.id, plan.frame handle)] := by
  rcases build_cases platform context plan r b with
    ⟨e, hbuild⟩ | ⟨size, e, -, -, -, hbuild⟩ | ⟨size, -, hfresh, -, hbuild⟩
  · rw [hbuild] at h
    cases h
  · rw [hbuild] at h
    cases h
  · rw [hbuild] at h
    cases h
    refine .fresh (w := { plan.record size with
      state := .placed, frame := plan.frame (b.nextHandle size) }) hfresh ?_ fun id' hid => ?_
    · simp [afterPlacement, nextHandle, WidgetTable.find?_set]
    · have hid' : ¬ b.counters.widget = id' := hid
      simp [afterPlacement, WidgetTable.find?_set, hid']

/-- A build that fails places nothing. -/
theorem adds_of_build_error {plan : WidgetPlan} {r r' : Rendering} {b b' : BridgeState σ η κ}
    {e : BridgeError} (h : b.build platform context plan r = (.error e, r', b')) :
    WidgetTable.Adds b.widgets b'.widgets [] := by
  rcases build_cases platform context plan r b with
    ⟨e, hbuild⟩ | ⟨size, e, -, hfresh, -, hbuild⟩ | ⟨size, -, -, -, hbuild⟩
  · rw [hbuild] at h
    cases h
    exact .refl b.widgets
  · rw [hbuild] at h
    cases h
    refine .fresh (w := plan.record size) hfresh ?_ fun id' hid => ?_
    · simp [WidgetTable.find?_set]
    · simp [WidgetTable.find?_set, hid]
  · rw [hbuild] at h
    cases h

/-- The widgets of the blocks are those that the render placed. -/
theorem adds_childBlocks (cursor : StackCursor) (children : List Descriptor) (r : Rendering)
    (b : BridgeState σ η κ) :
    WidgetTable.Adds b.widgets
      (renderChildren platform layout context cursor children r b).2.2.widgets
      (Block.leavesAll (childBlocks platform layout context cursor children r b)) := by
  induction cursor, children, r, b
    using renderChildren.induct platform layout context fun cursor d r b =>
      WidgetTable.Adds b.widgets (renderChild platform layout context cursor d r b).2.2.widgets
        (Block.leavesAll (childBlock platform layout context cursor d r b).toList) with
  | case1 cursor r b kind a handle r' b' hbuild =>
    have hadds := adds_of_build_ok hbuild
    rw [WidgetPlan.frame, WidgetPlan.origin_ofLeaf] at hadds
    simp only [renderChild, childBlock, hbuild, Option.toList_some, Block.leavesAll, Block.leaves,
      List.append_nil]
    exact hadds
  | case2 cursor r b kind a e r' b' hbuild =>
    simp only [renderChild, childBlock, hbuild, Option.toList_none, Block.leavesAll]
    exact adds_of_build_error hbuild
  | case3 cursor r b axis name children inner r' b' hinner ih =>
    rw [hinner] at ih
    simp only [renderChild, childBlock, hinner, Option.toList_some, Block.leavesAll, Block.leaves,
      List.append_nil]
    exact ih
  | case4 cursor r b =>
    simp only [renderChildren, childBlocks]
    exact .refl b.widgets
  | case5 cursor r b d rest cursor' r' b' hchild ihchild ih =>
    rw [hchild] at ihchild
    simp only [renderChildren, childBlocks, hchild, Block.leavesAll_append]
    exact ihchild.append ih

/-! ### The geometry of a render -/

/-- The geometry of a render with a container at its root, when neither an input nor a table stands
    directly in a column, the spacing is not negative, and no sum of coordinates leaves the range of
    words.  The widgets of the arrangement are the new widgets that were placed, in the frames of
    their records.  Every block lies within every container around it, two placed widgets never
    overlap, and the blocks of one container are at least the spacing apart along its axis. -/
theorem layout_geometry (platform : Platform σ) (layout : LayoutConfig) (context : Value)
    {axis : Axis} {name : Option String} {children : List Descriptor} (b : BridgeState σ η κ)
    (hspacing : 0 ≤ layout.spacing)
    (haligned : (Descriptor.container axis name children).Aligned)
    (hfits : ∀ part ∈ (b.arrangement platform layout context axis children).parts,
      part.SumsFit layout.spacing) :
    let root := b.arrangement platform layout context axis children
    let b' := (b.renderTree platform layout context (.container axis name children)).2
    (∀ id frame, .widget id frame ∈ root.parts ↔
      b.widgets.stateOf id = .unborn ∧ b'.widgets.Placed id frame) ∧
    (∀ outer ∈ root.parts, ∀ part ∈ outer.parts, part.frame.Within outer.frame) ∧
    (∀ id id' f g, id ≠ id' → .widget id f ∈ root.parts → .widget id' g ∈ root.parts →
      f.Separate g ∧ Disjoint f.interior g.interior) ∧
    (∀ axis frame blocks, .stack axis frame blocks ∈ root.parts →
      blocks.Pairwise fun p q => axis.stop p.frame + layout.spacing.toInt ≤ axis.start q.frame) := by
  intro root b'
  have hspacing' : 0 ≤ layout.spacing.toInt := Int64.le_iff_toInt_le.mp hspacing
  have hstacked : root.Stacked layout.spacing := by
    cases haligned with
    | container hdirect hchildren =>
      exact (row_childBlocks (.start axis layout.rootOrigin layout.spacing) children .empty b hchildren
        hdirect).stack
  have hadds : WidgetTable.Adds b.widgets b'.widgets root.leaves :=
    adds_childBlocks (.start axis layout.rootOrigin layout.spacing) children .empty b
  refine ⟨fun id frame => ?_, fun outer houter => ?_, fun id id' f g hid hf hg => ?_,
    fun axis frame blocks hstack => ?_⟩
  · rw [Block.widget_mem_parts]
    exact hadds.placed_iff id frame
  · exact (hstacked.of_mem_parts outer houter).within hspacing'
      fun part hpart => hfits part (Block.parts_subset houter hpart)
  · have hseparate := hstacked.separate_of_ne hspacing' hfits hf hg hid
    exact ⟨hseparate, hseparate.disjoint_interior⟩
  · exact ((hstacked.of_mem_parts _ hstack).children hspacing' (hfits _ hstack)).2

/-- A label, a row without children, and a row of an input and a column with a button. -/
def nestedForm : List Descriptor :=
  [.leaf .label { Attributes.none with text := some "name" }, .container .horizontal none [],
    .container .horizontal none
      [.leaf .input .none, .container .vertical none [.leaf .button .none]]]

theorem aligned_nestedForm : (Descriptor.container .vertical none nestedForm).Aligned := by
  have hcolumn : (Descriptor.container .vertical none [.leaf .button .none]).Aligned := by
    refine .container (fun _ kind a hmem => ?_) fun d hd => ?_
    · cases List.mem_singleton.mp hmem
      rfl
    · rw [List.mem_singleton.mp hd]
      exact .leaf .button .none
  refine .container (fun _ kind a hmem => ?_) fun d hd => ?_
  · simp only [nestedForm, List.mem_cons, List.not_mem_nil, Descriptor.leaf.injEq, reduceCtorEq,
      or_false] at hmem
    rw [hmem.1]
    rfl
  · simp only [nestedForm, List.mem_cons, List.not_mem_nil, or_false] at hd
    rcases hd with rfl | rfl | rfl
    · exact .leaf _ _
    · exact .container (fun h => by cases h) fun d hd => absurd hd List.not_mem_nil
    · refine .container (fun h => by cases h) fun d hd => ?_
      simp only [List.mem_cons, List.not_mem_nil, or_false] at hd
      rcases hd with rfl | rfl
      · exact .leaf _ _
      · exact hcolumn

/-- The button in the inner column stands clear of the input beside it. -/
theorem layout_geometry_nestedForm :
    let start : BridgeState Recorder (List (List Value)) EchoClass := .initial .standard [] .first
    let root := start.arrangement Setting.rehearsal.platform .standard .nil .vertical nestedForm
    (0 ≤ LayoutConfig.standard.spacing ∧
      (Descriptor.container .vertical none nestedForm).Aligned ∧
      ∀ part ∈ root.parts, part.SumsFit LayoutConfig.standard.spacing) ∧
    (.widget 1002 ⟨8, 74, 300, 46⟩ ∈ root.parts ∧ .widget 1003 ⟨318, 74, 30, 46⟩ ∈ root.parts) ∧
    Frame.Separate ⟨8, 74, 300, 46⟩ ⟨318, 74, 30, 46⟩ := by
  intro start root
  have hspacing : 0 ≤ LayoutConfig.standard.spacing := by decide
  have hfits : ∀ part ∈ root.parts, part.SumsFit LayoutConfig.standard.spacing := by decide +kernel
  have hinput : (1002, ⟨8, 74, 300, 46⟩) ∈ root.leaves := by decide +kernel
  have hbutton : (1003, ⟨318, 74, 30, 46⟩) ∈ root.leaves := by decide +kernel
  have hgeometry := layout_geometry Setting.rehearsal.platform .standard .nil start hspacing
    aligned_nestedForm hfits
  have hseparate := hgeometry.2.2.1 1002 1003 _ _ (by decide) (Block.widget_mem_parts.mpr hinput)
    (Block.widget_mem_parts.mpr hbutton)
  exact ⟨⟨hspacing, aligned_nestedForm, hfits⟩,
    ⟨Block.widget_mem_parts.mpr hinput, Block.widget_mem_parts.mpr hbutton⟩, hseparate.1⟩

end BridgeState
end ScriptBridge
