/-
  ScriptBridge/Proofs/Bridge/Skipping.lean
  ========================================
  **Skipped widgets do not disturb their siblings.**

  A leaf that the platform refuses leaves the cursor of its container alone.  So
  over a platform that judges by looks, a description is laid out like the one
  that lacks the refused leaves.  Only the ids differ: a refused leaf uses one up
  where the other description has none.

  Both renders are compared by their sketches.  The sketches agree up to ids
  (`sketchAll_keepAll`), and which ids they have is told by the list of leaves
  (`ids_sketchAll`).
-/
import ScriptBridge.Proofs.Bridge.Sketch
import ScriptBridge.Proofs.Bridge.Tour

namespace ScriptBridge

variable {σ η κ : Type}

namespace Descriptor

variable (p : WidgetKind × Attributes → Bool)

mutual

/-- The description without the leaves that are not to be kept; containers stay. -/
def keep? : Descriptor → Option Descriptor
  | .leaf kind a => if p (kind, a) then some (.leaf kind a) else none
  | .container axis name children => some (.container axis name (keepAll children))

def keepAll : List Descriptor → List Descriptor
  | [] => []
  | d :: rest => (keep? d).toList ++ keepAll rest

end

theorem leavesAll_append (ds more : List Descriptor) :
    leavesAll (ds ++ more) = leavesAll ds ++ leavesAll more := by
  induction ds with
  | nil => rfl
  | cons d rest ih => rw [List.cons_append, leavesAll, leavesAll, ih, List.append_assoc]

mutual

theorem length_leaves (d : Descriptor) : d.leaves.length = d.leafCount := by
  cases d with
  | leaf kind a => rfl
  | container axis name children => exact length_leavesAll children

theorem length_leavesAll (children : List Descriptor) :
    (leavesAll children).length = leafCounts children := by
  cases children with
  | nil => rfl
  | cons d rest =>
    rw [leavesAll, leafCounts, List.length_append, length_leaves d, length_leavesAll rest]

end

mutual

theorem leavesAll_keep? (d : Descriptor) : leavesAll (keep? p d).toList = d.leaves.filter p := by
  cases d with
  | leaf kind a =>
    rw [keep?, leaves]
    by_cases hp : p (kind, a) = true <;> simp [hp, leavesAll, leaves]
  | container axis name children =>
    rw [keep?, Option.toList_some, leavesAll, leavesAll, leaves, leaves, List.append_nil]
    exact leavesAll_keepAll children

theorem leavesAll_keepAll (children : List Descriptor) :
    leavesAll (keepAll p children) = (leavesAll children).filter p := by
  cases children with
  | nil => rfl
  | cons d rest =>
    rw [keepAll, leavesAll_append, leavesAll, List.filter_append, leavesAll_keep? d,
      leavesAll_keepAll rest]

end
end Descriptor

/-! ### Blocks without ids -/

namespace Block

mutual

/-- The block with the same id for all of its widgets. -/
def anonymous : Block → Block
  | .widget _ frame => .widget 0 frame
  | .stack axis frame blocks => .stack axis frame (anonymousAll blocks)

def anonymousAll : List Block → List Block
  | [] => []
  | block :: rest => anonymous block :: anonymousAll rest

end

theorem anonymousAll_append (blocks more : List Block) :
    anonymousAll (blocks ++ more) = anonymousAll blocks ++ anonymousAll more := by
  induction blocks with
  | nil => rfl
  | cons block rest ih => rw [List.cons_append, anonymousAll, anonymousAll, ih, List.cons_append]

mutual

theorem frames_anonymous (block : Block) :
    block.anonymous.leaves.map Prod.snd = block.leaves.map Prod.snd := by
  cases block with
  | widget id frame => rfl
  | stack axis frame blocks => exact frames_anonymousAll blocks

theorem frames_anonymousAll (blocks : List Block) :
    (leavesAll (anonymousAll blocks)).map Prod.snd = (leavesAll blocks).map Prod.snd := by
  cases blocks with
  | nil => rfl
  | cons block rest =>
    rw [anonymousAll, leavesAll, leavesAll, List.map_append, List.map_append,
      frames_anonymous block, frames_anonymousAll rest]

end
end Block

/-! ### Two sketches -/

namespace Judgement

variable (j : Judgement) (layout : LayoutConfig)

/-- The leaf is created and placed. -/
def accepts (leaf : WidgetKind × Attributes) : Bool := (j.size? leaf.1 leaf.2).isSome

/-- The ids of the accepted ones of some leaves that follow each other. -/
def acceptedIds (next : WidgetId) (leaves : List (WidgetKind × Attributes)) : List WidgetId :=
  fromId (fun id leaf => if j.accepts leaf then [id] else []) next leaves

theorem sketchAll_append (next : WidgetId) (cursor : StackCursor) (ds more : List Descriptor) :
    j.sketchAll layout next cursor (ds ++ more) =
      let first := j.sketchAll layout next cursor ds
      let rest := j.sketchAll layout (next + Int64.ofNat (Descriptor.leafCounts ds)) first.1 more
      (rest.1, first.2 ++ rest.2) := by
  induction ds generalizing next cursor with
  | nil =>
    have hzero : next + Int64.ofNat 0 = next := Int64.add_zero next
    simp only [List.nil_append, sketchAll, Descriptor.leafCounts, hzero]
  | cons d ds ih =>
    simp only [List.cons_append, sketchAll, ih, Descriptor.leafCounts, Int64.ofNat_add,
      Int64.add_assoc, List.append_assoc]

mutual

theorem sketchAll_keep? (next later : WidgetId) (cursor : StackCursor) (d : Descriptor) :
    (j.sketchAll layout later cursor (Descriptor.keep? j.accepts d).toList).1 =
        (j.sketch layout next cursor d).1 ∧
      Block.anonymousAll
          (j.sketchAll layout later cursor (Descriptor.keep? j.accepts d).toList).2 =
        Block.anonymousAll (j.sketch layout next cursor d).2.toList := by
  cases d with
  | leaf kind a =>
    have haccepts : j.accepts (kind, a) = (j.size? kind a).isSome := rfl
    cases hsize : j.size? kind a with
    | none =>
      rw [hsize, Option.isSome_none] at haccepts
      simp [Descriptor.keep?, haccepts, sketchAll, sketch, hsize]
    | some size =>
      rw [hsize, Option.isSome_some] at haccepts
      simp [Descriptor.keep?, haccepts, sketchAll, sketch, hsize, Block.anonymousAll,
        Block.anonymous]
  | container axis name children =>
    obtain ⟨hcursor, hblocks⟩ := sketchAll_keepAll next later
      (.start axis cursor.next layout.spacing) children
    simp only [Descriptor.keep?, Option.toList_some, sketchAll, sketch, hcursor,
      Block.anonymousAll, Block.anonymous, hblocks, List.append_nil]
    exact ⟨trivial, trivial⟩

/-- Up to ids, a sketch stays the same without the leaves that are refused. -/
theorem sketchAll_keepAll (next later : WidgetId) (cursor : StackCursor)
    (children : List Descriptor) :
    (j.sketchAll layout later cursor (Descriptor.keepAll j.accepts children)).1 =
        (j.sketchAll layout next cursor children).1 ∧
      Block.anonymousAll
          (j.sketchAll layout later cursor (Descriptor.keepAll j.accepts children)).2 =
        Block.anonymousAll (j.sketchAll layout next cursor children).2 := by
  cases children with
  | nil => exact ⟨rfl, rfl⟩
  | cons d rest =>
    obtain ⟨hcursor, hblocks⟩ := sketchAll_keep? next later cursor d
    rw [Descriptor.keepAll, sketchAll_append]
    simp only [sketchAll, hcursor, Block.anonymousAll_append, hblocks]
    obtain ⟨hcursor', hblocks'⟩ := sketchAll_keepAll (next + Int64.ofNat d.leafCount)
      (later + Int64.ofNat (Descriptor.leafCounts (Descriptor.keep? j.accepts d).toList))
      (j.sketch layout next cursor d).1 rest
    rw [hcursor', hblocks']
    exact ⟨rfl, rfl⟩

end

mutual

theorem ids_sketch (next : WidgetId) (cursor : StackCursor) (d : Descriptor) :
    (Block.leavesAll (j.sketch layout next cursor d).2.toList).map Prod.fst =
      j.acceptedIds next d.leaves := by
  cases d with
  | leaf kind a =>
    have haccepts : j.accepts (kind, a) = (j.size? kind a).isSome := rfl
    rw [Descriptor.leaves, acceptedIds, fromId_singleton]
    cases hsize : j.size? kind a with
    | none =>
      rw [hsize, Option.isSome_none] at haccepts
      simp [sketch, hsize, haccepts, Block.leavesAll]
    | some size =>
      rw [hsize, Option.isSome_some] at haccepts
      simp [sketch, hsize, haccepts, Block.leavesAll, Block.leaves]
  | container axis name children =>
    have hchildren := ids_sketchAll next (.start axis cursor.next layout.spacing) children
    simp only [sketch, Option.toList_some, Block.leavesAll, Block.leaves, List.append_nil,
      Descriptor.leaves]
    exact hchildren

/-- The widgets of a sketch have the ids of the accepted leaves, in document order. -/
theorem ids_sketchAll (next : WidgetId) (cursor : StackCursor) (children : List Descriptor) :
    (Block.leavesAll (j.sketchAll layout next cursor children).2).map Prod.fst =
      j.acceptedIds next (Descriptor.leavesAll children) := by
  cases children with
  | nil => rfl
  | cons d rest =>
    have hfirst := ids_sketch next cursor d
    have hrest := ids_sketchAll (next + Int64.ofNat d.leafCount)
      (j.sketch layout next cursor d).1 rest
    simp only [sketchAll, Block.leavesAll_append, List.map_append, hfirst, hrest,
      Descriptor.leavesAll, acceptedIds, fromId_append, Descriptor.length_leaves]

end

/-! ### Which leaf has which id -/

theorem length_acceptedIds (next : WidgetId) (leaves : List (WidgetKind × Attributes)) :
    (j.acceptedIds next leaves).length = (leaves.filter j.accepts).length := by
  induction leaves generalizing next with
  | nil => rfl
  | cons leaf rest ih =>
    have hrest := ih (next + Int64.ofNat 1)
    rw [acceptedIds] at hrest
    rw [acceptedIds, fromId_cons, List.length_append, hrest]
    by_cases hleaf : j.accepts leaf = true
    · simp [hleaf, Nat.add_comm]
    · simp [hleaf]

/-- An accepted leaf comes after the accepted ones before it. -/
theorem getElem?_acceptedIds (before after : List (WidgetKind × Attributes))
    {leaf : WidgetKind × Attributes} (hleaf : j.accepts leaf = true) (next : WidgetId) :
    (j.acceptedIds next (before ++ leaf :: after))[(before.filter j.accepts).length]? =
      some (next + Int64.ofNat before.length) := by
  have hlength := j.length_acceptedIds next before
  rw [acceptedIds] at hlength
  rw [acceptedIds, fromId_append, fromId_cons, if_pos hleaf,
    List.getElem?_append_right (Nat.le_of_eq hlength), hlength, Nat.sub_self]
  rfl

/-- The id of a refused leaf is none of them, as long as the ids are different words. -/
theorem not_mem_acceptedIds {before after : List (WidgetKind × Attributes)}
    {leaf : WidgetKind × Attributes} (hleaf : ¬ j.accepts leaf = true) (next : WidgetId)
    (hwords : (before ++ leaf :: after).length ≤ Int64.size) :
    next + Int64.ofNat before.length ∉ j.acceptedIds next (before ++ leaf :: after) := by
  intro hmem
  obtain ⟨k, leaf', hitem, hid⟩ := mem_fromId _ next hmem
  have hk : k < (before ++ leaf :: after).length := (List.getElem?_eq_some_iff.mp hitem).1
  have hbefore : before.length < (before ++ leaf :: after).length := by
    rw [List.length_append, List.length_cons]
    omega
  split at hid
  · next haccepted =>
    have hsteps := steps_eq_of_add_eq next (Nat.lt_of_lt_of_le hbefore hwords)
      (Nat.lt_of_lt_of_le hk hwords) (List.mem_singleton.mp hid)
    rw [← hsteps, List.getElem?_append_right (Nat.le_refl _), Nat.sub_self] at hitem
    obtain rfl : leaf = leaf' := Option.some.inj hitem
    exact hleaf haccepted
  · exact List.not_mem_nil hid

end Judgement

/-! ### Two renders -/

/-- Two lists of widgets with the same frames pair the widgets of one position. -/
theorem exists_common_frame {widgets widgets' : List (WidgetId × Frame)} {i : Nat}
    {id id' : WidgetId} (hframes : widgets'.map Prod.snd = widgets.map Prod.snd)
    (hid : (widgets.map Prod.fst)[i]? = some id) (hid' : (widgets'.map Prod.fst)[i]? = some id') :
    ∃ frame, (id, frame) ∈ widgets ∧ (id', frame) ∈ widgets' := by
  rw [List.getElem?_map] at hid hid'
  obtain ⟨⟨_, frame⟩, hwidget, rfl⟩ := Option.map_eq_some_iff.mp hid
  obtain ⟨⟨_, frame'⟩, hwidget', rfl⟩ := Option.map_eq_some_iff.mp hid'
  have hsame : frame' = frame := by
    have hat := congrArg (fun frames => frames[i]?) hframes
    simp only [List.getElem?_map, hwidget, hwidget', Option.map_some] at hat
    exact Option.some.inj hat
  rw [hsame] at hwidget'
  exact ⟨frame, List.mem_of_getElem? hwidget, List.mem_of_getElem? hwidget'⟩

/-- Over a platform that judges by looks, take a render of a container, and a render of the same
    container without the leaves that the platform refuses to create or to place, each in any state
    that a bridge can get into before the ids run out.  Both have the same blocks but for the ids, so
    every container has the same frame in both.  A leaf that is accepted is placed in both, in the
    same frame; it has the id of its position among all leaves in the first render, and that of its
    position among the accepted leaves in the second.  No other leaf is placed. -/
theorem Setting.skipping_keeps_frames [DecidableEq κ] (s : Setting σ η κ) {ready : σ → Prop}
    {j : Judgement} (hplatform : s.platform.JudgesBy ready j) {children : List Descriptor}
    {b b' : BridgeState σ η κ}
    (hb : s.Arises (Descriptor.leafCounts children) b) (hready : ready b.platform)
    (hb' : s.Arises (Descriptor.leafCounts (Descriptor.keepAll j.accepts children)) b')
    (hready' : ready b'.platform) (axis : Axis) (name : Option String) (context context' : Value) :
    let kept := Descriptor.keepAll j.accepts children
    let root := b.arrangement s.platform s.layout context axis children
    let root' := b'.arrangement s.platform s.layout context' axis kept
    let drawn := (b.renderTree s.platform s.layout context (.container axis name children)).2
    let drawn' := (b'.renderTree s.platform s.layout context' (.container axis name kept)).2
    root'.anonymous = root.anonymous ∧
    Descriptor.leavesAll kept = (Descriptor.leavesAll children).filter j.accepts ∧
    ∀ before leaf after, Descriptor.leavesAll children = before ++ leaf :: after →
      let id := b.counters.widget + Int64.ofNat before.length
      let id' := b'.counters.widget + Int64.ofNat (before.filter j.accepts).length
      (j.accepts leaf = true → ∃ frame,
        (.widget id frame ∈ root.parts ∧ drawn.widgets.Placed id frame) ∧
        (.widget id' frame ∈ root'.parts ∧ drawn'.widgets.Placed id' frame)) ∧
      (¬ j.accepts leaf = true → ∀ frame, ¬ drawn.widgets.Placed id frame) := by
  intro kept root root' drawn drawn'
  have hroot := BridgeState.sketched_arrangement hplatform hready s.layout context axis hb.room
  have hroot' := BridgeState.sketched_arrangement hplatform hready' s.layout context' axis hb'.room
  obtain ⟨hcursor, hblocks⟩ := j.sketchAll_keepAll s.layout b.counters.widget b'.counters.widget
    (.start axis s.layout.rootOrigin s.layout.spacing) children
  have hsame : root'.anonymous = root.anonymous := by
    simp only [root, root', kept, hroot, hroot', Block.anonymous, hcursor, hblocks]
  have hleaves : Descriptor.leavesAll kept = (Descriptor.leavesAll children).filter j.accepts :=
    Descriptor.leavesAll_keepAll j.accepts children
  have hframes : root'.leaves.map Prod.snd = root.leaves.map Prod.snd := by
    rw [← Block.frames_anonymous root', hsame, Block.frames_anonymous]
  have hids : root.leaves.map Prod.fst =
      j.acceptedIds b.counters.widget (Descriptor.leavesAll children) := by
    simp only [root, hroot, Block.leaves]
    exact j.ids_sketchAll s.layout b.counters.widget _ children
  have hids' : root'.leaves.map Prod.fst =
      j.acceptedIds b'.counters.widget (Descriptor.leavesAll kept) := by
    simp only [root', kept, hroot', Block.leaves]
    exact j.ids_sketchAll s.layout b'.counters.widget _ kept
  have hadds : WidgetTable.Adds b.widgets drawn.widgets root.leaves :=
    BridgeState.adds_childBlocks (.start axis s.layout.rootOrigin s.layout.spacing) children .empty b
  have hadds' : WidgetTable.Adds b'.widgets drawn'.widgets root'.leaves :=
    BridgeState.adds_childBlocks (.start axis s.layout.rootOrigin s.layout.spacing) kept .empty b'
  refine ⟨hsame, hleaves, ?_⟩
  intro before leaf after hsplit
  rw [hsplit] at hids hleaves
  constructor
  · intro haccepted
    have hid := j.getElem?_acceptedIds before after haccepted b.counters.widget
    have hid' := j.getElem?_acceptedIds (before.filter j.accepts) (after.filter j.accepts)
      haccepted b'.counters.widget
    rw [List.filter_append, List.filter_cons_of_pos haccepted] at hleaves
    rw [List.filter_filter, ← hleaves, ← hids'] at hid'
    rw [← hids] at hid
    simp only [Bool.and_self] at hid'
    obtain ⟨frame, hwidget, hwidget'⟩ := exists_common_frame hframes hid hid'
    refine ⟨frame, ⟨Block.widget_mem_parts.mpr hwidget, ?_⟩, Block.widget_mem_parts.mpr hwidget', ?_⟩
    · exact ((hadds.placed_iff _ _).mp hwidget).2
    · exact ((hadds'.placed_iff _ _).mp hwidget').2
  · intro hrefused frame hplaced
    have hlength := Descriptor.length_leavesAll children
    rw [hsplit] at hlength
    have hroom : before.length < Descriptor.leafCounts children := by
      rw [← hlength, List.length_append, List.length_cons]
      omega
    have hunborn := WidgetTable.stateOf_of_find?_none (hb.room.free before.length hroom)
    have hwidget := (hadds.placed_iff _ _).mpr ⟨hunborn, hplaced⟩
    have hmem := List.mem_map_of_mem (f := Prod.fst) hwidget
    rw [hids] at hmem
    exact j.not_mem_acceptedIds hrefused _ (hlength ▸ hb.room.words) hmem

/-- A button without its image, a row of another one, and a label. -/
def brokenRow : List Descriptor :=
  let broken : Descriptor := .leaf .button { Attributes.none with image := some "missing.png" }
  [broken, .container .horizontal none [broken],
    .leaf .label { Attributes.none with text := some "name" }]

/-- The label, the third leaf, is placed as it is without the buttons, where the row is empty. -/
theorem Setting.skipping_keeps_frames_brokenRow :
    let j := Recorder.judgement .emptyDirectory .standard
    let start : BridgeState Recorder (List (List Value)) EchoClass := .initial .standard [] .first
    let draw (children : List Descriptor) :=
      (start.renderTree rehearsal.platform rehearsal.layout .nil (.container .vertical none children)).2
    ∃ frame, (draw brokenRow).widgets.Placed 1003 frame ∧
      (draw (Descriptor.keepAll j.accepts brokenRow)).widgets.Placed 1001 frame := by
  intro j start draw
  have hplatform : rehearsal.platform.JudgesBy _ j := Recorder.judgesBy .emptyDirectory .standard
  have hstart : rehearsal.Arises (Descriptor.leafCounts brokenRow) start :=
    ⟨.standard, [], .first, [], rfl, by decide⟩
  have hstart' : rehearsal.Arises 1 start := ⟨.standard, [], .first, [], rfl, by decide⟩
  have hkept : Descriptor.leafCounts (Descriptor.keepAll j.accepts brokenRow) = 1 := by
    decide +kernel
  have hlabel : j.accepts (.label, { Attributes.none with text := some "name" }) = true := by
    decide +kernel
  have hbuttons : ([(.button, { Attributes.none with image := some "missing.png" }),
      (.button, { Attributes.none with image := some "missing.png" })].filter j.accepts).length = 0 := by
    decide +kernel
  have hrenders := rehearsal.skipping_keeps_frames hplatform hstart ⟨rfl, rfl⟩ (hkept ▸ hstart')
    ⟨rfl, rfl⟩ .vertical none .nil .nil
  obtain ⟨frame, ⟨-, hplaced⟩, -, hplaced'⟩ := (hrenders.2.2 [_, _] _ [] rfl).1 hlabel
  rw [hbuttons] at hplaced'
  exact ⟨frame, hplaced, hplaced'⟩

end ScriptBridge
