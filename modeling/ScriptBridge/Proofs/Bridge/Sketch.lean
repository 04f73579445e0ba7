/-
  ScriptBridge/Proofs/Bridge/Sketch.lean
  ======================================
  **Renders that the description alone determines.**

  Some platforms judge a widget by its look: what they answer to a creation, and
  to the placement of a created widget, depends on its kind, text, image and
  values, and neither on its id and position nor on what was asked before.  Over
  such a platform nothing of the bridge matters to the layout but the next id, so
  the blocks of a render can be sketched from the description (`Judgement.sketch`).
-/
import ScriptBridge.Proofs.Bridge.Arrangement
import ScriptBridge.Proofs.Bridge.FreshBuild
import ScriptBridge.Proofs.Platform.Recorder

namespace ScriptBridge

variable {σ η κ : Type}

/-- What a leaf looks like. -/
structure Look where
  kind : WidgetKind
  text : Option String
  image : Option String
  values : Option (List Value)

def Look.of (kind : WidgetKind) (a : Attributes) : Look := ⟨kind, a.text, a.image, a.list⟩

/-- What is answered for each look: to a creation, and to the placement of a created widget. -/
structure Judgement where
  create : Look → Except PlatformError Size
  place : Look → Except PlatformError Unit

namespace Judgement

/-- The answers to a build. -/
def answer (j : Judgement) (look : Look) : Answer :=
  match j.create look with
  | .error e => .refused e
  | .ok size =>
    match j.place look with
    | .error e => .unplaced size e
    | .ok () => .placed size

/-- The size of a widget that is created and placed. -/
def size? (j : Judgement) (kind : WidgetKind) (a : Attributes) : Option Size :=
  match j.answer (.of kind a) with
  | .placed size => some (.clamped size.width size.height)
  | _ => none

mutual

/-- The cursor after a child of a container, and the block that the child becomes. -/
def sketch (j : Judgement) (layout : LayoutConfig) (next : WidgetId) (cursor : StackCursor) :
    Descriptor → StackCursor × Option Block
  | .leaf kind a =>
    match j.size? kind a with
    | some size =>
      (cursor.advance size, some (.widget next (.of (BridgeState.childOrigin layout cursor kind) size)))
    | none => (cursor, none)
  | .container axis _ children =>
    let (inner, blocks) := sketchAll j layout next (.start axis cursor.next layout.spacing) children
    (cursor.advance inner.finish, some (.stack axis (.of cursor.next inner.finish) blocks))

/-- The cursor after the children of a container, and the blocks that they become. -/
def sketchAll (j : Judgement) (layout : LayoutConfig) (next : WidgetId) (cursor : StackCursor) :
    List Descriptor → StackCursor × List Block
  | [] => (cursor, [])
  | d :: rest =>
    let (cursor, block) := sketch j layout next cursor d
    let (cursor, blocks) := sketchAll j layout (next + Int64.ofNat d.leafCount) cursor rest
    (cursor, block.toList ++ blocks)

end
end Judgement

/-- The platform judges leaves by their looks, in all of the states that it is in. -/
structure Platform.JudgesBy (platform : Platform σ) (ready : σ → Prop) (j : Judgement) : Prop where
  creates : ∀ id kind a origin p, ready p →
    (platform.create id (WidgetPlan.ofLeaf kind a origin).blueprint p).1 = j.create (.of kind a)
  places : ∀ id kind a origin frame size p, ready p → j.create (.of kind a) = .ok size →
    (platform.place id frame
      (platform.create id (WidgetPlan.ofLeaf kind a origin).blueprint p).2).1 = j.place (.of kind a)
  ready_create : ∀ id blueprint p, ready p → ready (platform.create id blueprint p).2
  ready_place : ∀ id frame p, ready p → ready (platform.place id frame p).2

namespace BridgeState

variable {platform : Platform σ} {ready : σ → Prop} {j : Judgement} {b : BridgeState σ η κ}

theorem answer_of_judgesBy (h : platform.JudgesBy ready j) (hready : ready b.platform)
    (kind : WidgetKind) (a : Attributes) (origin : Point) :
    b.answer platform (.ofLeaf kind a origin) = j.answer (.of kind a) := by
  have hcreated : b.creationAnswer platform (.ofLeaf kind a origin) = j.create (.of kind a) :=
    h.creates b.counters.widget kind a origin b.platform hready
  unfold answer Judgement.answer
  rw [hcreated]
  cases hcreate : j.create (.of kind a) with
  | error e => rfl
  | ok size =>
    have hplaced := h.places b.counters.widget kind a origin
      ((WidgetPlan.ofLeaf kind a origin).frame (b.nextHandle size)) size b.platform hready hcreate
    cases hplace : j.place (.of kind a) with
    | error e =>
      rw [hplace] at hplaced
      simp only [afterRequest, hplaced]
    | ok u =>
      rw [hplace] at hplaced
      simp only [afterRequest, hplaced]

theorem ready_create (h : platform.JudgesBy ready j) (hready : ready b.platform) (context : Value)
    (names : NameTable) (plan : WidgetPlan) :
    ready (b.create platform context names plan).2.platform := by
  have hasked : ready (b.afterRequest platform plan).platform :=
    h.ready_create b.counters.widget plan.blueprint b.platform hready
  rcases b.create_cases platform context names plan with
    ⟨e, -, heq⟩ | ⟨size, e, -, -, heq⟩ | ⟨size, -, -, heq⟩
  · rw [heq]
    exact hasked
  · rw [heq]
    exact hasked
  · rw [heq, afterCreation, bindLogic_platform]
    exact hasked

theorem ready_build (h : platform.JudgesBy ready j) (hready : ready b.platform) (context : Value)
    (plan : WidgetPlan) (r : Rendering) :
    ready (b.build platform context plan r).2.2.platform := by
  apply build_invariant (I := fun b => ready b.platform)
  · exact ready_create h hready context r.names plan
  · intro r b hb
    exact hb
  · intro id frame b hb
    rcases b.place_cases platform id frame with ⟨-, e, heq⟩ | ⟨e, -, -, heq⟩ | ⟨w, -, -, -, heq⟩
    · rw [heq]
      exact hb
    · rw [heq]
      exact h.ready_place id frame b.platform hb
    · rw [heq]
      exact h.ready_place id frame b.platform hb

/-- What a leaf comes to, under an id without a record. -/
theorem size?_of_build (h : platform.JudgesBy ready j) (hready : ready b.platform)
    (hfresh : b.widgets.stateOf b.counters.widget = .unborn) (context : Value) (kind : WidgetKind)
    (a : Attributes) (origin : Point) (r : Rendering) :
    (∃ handle, (b.build platform context (.ofLeaf kind a origin) r).1 = .ok handle ∧
      handle.id = b.counters.widget ∧
      j.size? kind a = some (.clamped handle.width handle.height)) ∨
    (∃ e, (b.build platform context (.ofLeaf kind a origin) r).1 = .error e ∧
      j.size? kind a = none) := by
  rw [build_fst hfresh, answer_of_judgesBy h hready, Judgement.size?]
  cases j.answer (.of kind a) with
  | refused e => exact Or.inr ⟨_, rfl, rfl⟩
  | unplaced size e => exact Or.inr ⟨_, rfl, rfl⟩
  | placed size => exact Or.inl ⟨_, rfl, rfl, rfl⟩

/-- A render over a platform that judges by looks has the cursor and the blocks of the sketch. -/
theorem sketched_renderChildren (h : platform.JudgesBy ready j) (layout : LayoutConfig)
    (context : Value) (cursor : StackCursor) (children : List Descriptor) (r : Rendering)
    (b : BridgeState σ η κ) (hready : ready b.platform)
    (hroom : b.Room (Descriptor.leafCounts children)) :
    ((b.renderChildren platform layout context cursor children r).1,
        b.childBlocks platform layout context cursor children r) =
      j.sketchAll layout b.counters.widget cursor children ∧
    ready (b.renderChildren platform layout context cursor children r).2.2.platform := by
  induction cursor, children, r, b
    using BridgeState.renderChildren.induct platform layout context fun cursor d r b =>
      ready b.platform → b.Room d.leafCount →
      ((b.renderChild platform layout context cursor d r).1,
          b.childBlock platform layout context cursor d r) =
        j.sketch layout b.counters.widget cursor d ∧
      ready (b.renderChild platform layout context cursor d r).2.2.platform with
  | case1 cursor r b kind a handle r' b' hbuild hready hroom =>
    have hafter := ready_build h hready context (.ofLeaf kind a (childOrigin layout cursor kind)) r
    have hsize := size?_of_build h hready (hroom.unborn Nat.one_pos) context kind a
      (childOrigin layout cursor kind) r
    rw [hbuild] at hafter hsize
    simp only [BridgeState.renderChild, childBlock, hbuild]
    refine ⟨?_, hafter⟩
    rcases hsize with ⟨handle', heq, hid, hsize⟩ | ⟨e, heq, -⟩
    · cases heq
      simp only [Judgement.sketch, hsize, hid]
    · cases heq
  | case2 cursor r b kind a e r' b' hbuild hready hroom =>
    have hafter := ready_build h hready context (.ofLeaf kind a (childOrigin layout cursor kind)) r
    have hsize := size?_of_build h hready (hroom.unborn Nat.one_pos) context kind a
      (childOrigin layout cursor kind) r
    rw [hbuild] at hafter hsize
    simp only [BridgeState.renderChild, childBlock, hbuild]
    refine ⟨?_, hafter⟩
    rcases hsize with ⟨handle', heq, -, -⟩ | ⟨e, heq, hsize⟩
    · cases heq
    · simp only [Judgement.sketch, hsize]
  | case3 cursor r b axis name children inner r' b' hinner ih hready hroom =>
    obtain ⟨hblocks, hafter⟩ := ih hready hroom
    rw [hinner] at hblocks hafter
    simp only [BridgeState.renderChild, childBlock, hinner, Judgement.sketch, ← hblocks]
    exact ⟨trivial, hafter⟩
  | case4 cursor r b =>
    simp only [BridgeState.renderChildren, childBlocks, Judgement.sketchAll]
    exact ⟨trivial, hready⟩
  | case5 cursor r b d rest cursor' r' b' hchild ihchild ih =>
    rw [Descriptor.leafCounts] at hroom
    have htakes := Takes.renderChild platform layout context cursor d r b
    obtain ⟨hblock, hafter⟩ := ihchild hready (hroom.mono (Nat.le_add_right _ _))
    rw [hchild] at htakes hblock hafter
    obtain ⟨hblocks, hend⟩ := ih hafter (hroom.rest htakes)
    rw [htakes.counter] at hblocks
    simp only [BridgeState.renderChildren, childBlocks, hchild, Judgement.sketchAll, ← hblock,
      ← hblocks]
    exact ⟨trivial, hend⟩

/-- The arrangement of a render is that of the sketch. -/
theorem sketched_arrangement (h : platform.JudgesBy ready j) (hready : ready b.platform)
    (layout : LayoutConfig) (context : Value) (axis : Axis) {children : List Descriptor}
    (hroom : b.Room (Descriptor.leafCounts children)) :
    b.arrangement platform layout context axis children =
      let start := StackCursor.start axis layout.rootOrigin layout.spacing
      let (inner, blocks) := j.sketchAll layout b.counters.widget start children
      .stack axis (.of layout.rootOrigin inner.finish) blocks := by
  have hsketch := (sketched_renderChildren h layout context
    (.start axis layout.rootOrigin layout.spacing) children .empty b hready hroom).1
  dsimp only
  rw [← hsketch]
  rfl

end BridgeState

/-! ### The recording platform -/

/-- What a recorder answers for a look, as long as its window and its assets stay. -/
def Recorder.judgement (files : FileTree) (r : Recorder) : Judgement where
  create look :=
    let a : Attributes := ⟨none, look.text, look.image, none, look.values⟩
    (create files 0 (WidgetPlan.ofLeaf look.kind a ⟨0, 0⟩).blueprint r).1
  place _ := .ok ()

namespace Recorder

variable {files : FileTree} {start r : Recorder}

theorem judgement_create (hwindow : r.window = start.window) (hassets : r.assets = start.assets)
    (id : WidgetId) (kind : WidgetKind) (a : Attributes) (origin : Point) :
    (create files id (WidgetPlan.ofLeaf kind a origin).blueprint r).1 =
      (judgement files start).create (.of kind a) := by
  cases kind with
  | button =>
    simp only [judgement, create, WidgetPlan.ofLeaf, Look.of, hassets]
    split <;> rfl
  | label => rfl
  | input => simp only [judgement, create, WidgetPlan.ofLeaf, Look.of, halfWindow, hwindow]
  | table =>
    simp only [judgement, create, WidgetPlan.ofLeaf, Look.of, halfWindow, hwindow]
    rfl

/-- A recording platform judges by looks, while its window and its assets stay. -/
theorem judgesBy (files : FileTree) (start : Recorder) :
    (platform files).JudgesBy (fun r => r.window = start.window ∧ r.assets = start.assets)
      (judgement files start) := by
  constructor
  · rintro id kind a origin r ⟨hwindow, hassets⟩
    exact judgement_create hwindow hassets id kind a origin
  · rintro id kind a origin frame size r ⟨hwindow, hassets⟩ hcreated
    rw [← judgement_create hwindow hassets id kind a origin] at hcreated
    simp only [platform]
    rcases create_cases files id (WidgetPlan.ofLeaf kind a origin).blueprint r with
      ⟨e, heq⟩ | ⟨size', e, heq, -⟩
    · rw [heq] at hcreated
      cases hcreated
    · rw [heq, onWidget_of_created (by simp [recordCreation])]
      rfl
  · rintro id blueprint r hr
    simp only [platform]
    rcases create_cases files id blueprint r with ⟨e, heq⟩ | ⟨size, e, heq, -⟩
    · rw [heq]
      exact hr
    · rw [heq]
      exact hr
  · rintro id frame r hr
    simp only [platform]
    rcases onWidget_cases "place" id (.place id frame) r with ⟨e, heq⟩ | heq
    · rw [heq]
      exact hr
    · rw [heq]
      exact hr

end Recorder
end ScriptBridge
