/-
  ScriptBridge/Proofs/Bridge/Tour.lean
  ====================================
  **The calls of a render, in document order.**

  A render of a container visits the leaves of the description one after the
  other.  Of all its state only the id counter runs through the whole tree, so
  the calls can be told from a flat list of visits: the visit of the k-th leaf
  goes to the platform under the k-th id, first to create the widget, and if that
  is accepted to place it (`Visit.calls`).  The names that the render hands back
  are told from the same list (`Visit.made?`).

  `Tours` says this of a part of the walk.  It holds of one build, and parts
  that follow each other compose, at whatever depth of the tree they are.
-/
import ScriptBridge.Proofs.Bridge.FreshBuild
import ScriptBridge.Proofs.Bridge.Trace

namespace ScriptBridge

variable {σ η κ : Type}

namespace Descriptor

mutual

/-- The leaves of a description, in document order. -/
def leaves : Descriptor → List (WidgetKind × Attributes)
  | .leaf kind a => [(kind, a)]
  | .container _ _ children => leavesAll children

def leavesAll : List Descriptor → List (WidgetKind × Attributes)
  | [] => []
  | d :: rest => leaves d ++ leavesAll rest

end
end Descriptor

/-! ### Visits -/

/-- The visit of a leaf: where the widget is to stand, and what the platform answers. -/
structure Visit where
  kind : WidgetKind
  attributes : Attributes
  origin : Point
  answer : Answer

namespace Visit

def leaf (v : Visit) : WidgetKind × Attributes := (v.kind, v.attributes)

def plan (v : Visit) : WidgetPlan := .ofLeaf v.kind v.attributes v.origin

/-- The platform created a widget that carries the name. -/
def Names (v : Visit) (name : String) : Prop :=
  v.answer.size?.isSome ∧ v.attributes.name = some name

/-- The handle of the widget, if it was created. -/
def handle? (id : WidgetId) (v : Visit) : Option WidgetHandle :=
  v.answer.size?.map fun size => ⟨id, size.width, size.height⟩

/-- The calls of a visit: a creation, and if it is accepted, a placement at the same origin with the
    size that was answered, negative sides raised to zero. -/
def calls (id : WidgetId) (v : Visit) : List PlatformCall :=
  let place (size : Size) : Except PlatformError Unit → PlatformCall :=
    .place id (.of v.origin (.clamped size.width size.height))
  match v.answer with
  | .refused e => [.create id v.plan.blueprint (.error e)]
  | .unplaced size e => [.create id v.plan.blueprint (.ok size), place size (.error e)]
  | .placed size => [.create id v.plan.blueprint (.ok size), place size (.ok ())]

/-- The widget that a visit makes. -/
def made? (id : WidgetId) (v : Visit) : Option Made := (v.handle? id).map (Made.mk v.plan)

/-- The widgets that some visits make under the ids from one on. -/
def madeFrom (next : WidgetId) (visits : List Visit) : List Made :=
  fromId (fun id v => (v.made? id).toList) next visits

theorem name_plan (v : Visit) : v.plan.name = v.attributes.name := rfl

theorem madeFrom_cons (next : WidgetId) (v : Visit) (rest : List Visit) :
    madeFrom next (v :: rest) = (v.made? next).toList ++ madeFrom (next + Int64.ofNat 1) rest :=
  fromId_cons ..

end Visit

/-! ### The last widget of a name -/

theorem lastMade?_append (made more : List Made) (name : String) :
    lastMade? (made ++ more) name = (lastMade? more name).or (lastMade? made name) := by
  rw [lastMade?, List.reverse_append, List.find?_append, Option.map_or]
  rfl

namespace Visit

/-- The last of some visits that names a widget so, with the handle that it got. -/
def LastNamed (next : WidgetId) (visits : List Visit) (name : String) (handle : WidgetHandle) : Prop :=
  ∃ before v after, visits = before ++ v :: after ∧ v.Names name ∧
    v.handle? (next + Int64.ofNat before.length) = some handle ∧ ∀ w ∈ after, ¬ w.Names name

variable {name : String} {handle : WidgetHandle}

theorem lastMade?_made? (id : WidgetId) (v : Visit) :
    lastMade? (v.made? id).toList name = some handle ↔
      v.Names name ∧ v.handle? id = some handle := by
  unfold made? handle? Names
  cases v.answer.size? with
  | none => simp [lastMade?]
  | some size =>
    by_cases hname : v.attributes.name = some name <;> simp [lastMade?, name_plan, hname]

theorem lastNamed_cons (next : WidgetId) (v : Visit) (rest : List Visit) :
    LastNamed next (v :: rest) name handle ↔
      LastNamed (next + Int64.ofNat 1) rest name handle ∨
        (v.Names name ∧ v.handle? next = some handle ∧ ∀ w ∈ rest, ¬ w.Names name) := by
  have hzero : next + Int64.ofNat 0 = next := Int64.add_zero next
  have hshift : ∀ k, next + Int64.ofNat (k + 1) = next + Int64.ofNat 1 + Int64.ofNat k := by
    intro k
    rw [Nat.add_comm, Int64.ofNat_add, Int64.add_assoc]
  constructor
  · rintro ⟨before, w, after, hvisits, hname, hhandle, hlast⟩
    cases before with
    | nil =>
      obtain ⟨rfl, rfl⟩ := List.cons.inj hvisits
      rw [List.length_nil, hzero] at hhandle
      exact Or.inr ⟨hname, hhandle, hlast⟩
    | cons u before =>
      obtain ⟨rfl, hrest⟩ := List.cons.inj hvisits
      rw [List.length_cons, hshift] at hhandle
      exact Or.inl ⟨before, w, after, hrest, hname, hhandle, hlast⟩
  · rintro (⟨before, w, after, rfl, hname, hhandle, hlast⟩ | ⟨hname, hhandle, hlast⟩)
    · refine ⟨v :: before, w, after, rfl, hname, ?_, hlast⟩
      rw [List.length_cons, hshift]
      exact hhandle
    · refine ⟨[], v, rest, rfl, hname, ?_, hlast⟩
      rw [List.length_nil, hzero]
      exact hhandle

/-- Without a visit that names a widget so, there is no such widget. -/
theorem lastMade?_eq_none_iff (next : WidgetId) (visits : List Visit) :
    lastMade? (madeFrom next visits) name = none ↔ ∀ v ∈ visits, ¬ v.Names name := by
  induction visits generalizing next with
  | nil => simp [madeFrom, lastMade?]
  | cons v rest ih =>
    have hfirst : lastMade? (v.made? next).toList name = none ↔ ¬ v.Names name := by
      rw [Option.eq_none_iff_forall_ne_some]
      constructor
      · intro hnone hname
        obtain ⟨size, hsize⟩ := Option.isSome_iff_exists.mp hname.1
        refine hnone ⟨next, size.width, size.height⟩ ((lastMade?_made? next v).mpr ⟨hname, ?_⟩)
        rw [handle?, hsize, Option.map_some]
      · intro hname handle hsome
        exact hname ((lastMade?_made? next v).mp hsome).1
    rw [madeFrom_cons, lastMade?_append, Option.or_eq_none_iff, ih, hfirst, List.forall_mem_cons,
      and_comm]

/-- A name stands for the widget of the last visit that names one so. -/
theorem lastMade?_madeFrom (next : WidgetId) (visits : List Visit) :
    lastMade? (madeFrom next visits) name = some handle ↔ LastNamed next visits name handle := by
  induction visits generalizing next with
  | nil =>
    refine iff_of_false (fun h => by cases h) ?_
    rintro ⟨before, v, after, hvisits, -⟩
    exact absurd hvisits.symm (List.append_ne_nil_of_right_ne_nil _ (List.cons_ne_nil _ _))
  | cons v rest ih =>
    rw [madeFrom_cons, lastMade?_append, Option.or_eq_some_iff, ih, lastMade?_made?,
      lastMade?_eq_none_iff, lastNamed_cons]
    tauto

end Visit

namespace BridgeState

/-! ### The walk -/

/-- Some visits lead from one point of a walk over the watched platform to another. -/
structure Tours (visits : List Visit)
    (start stop : Rendering × BridgeState (σ × List PlatformCall) η κ) : Prop where
  counter : stop.2.counters.widget = start.2.counters.widget + Int64.ofNat visits.length
  calls : stop.2.calls = start.2.calls ++ fromId Visit.calls start.2.counters.widget visits
  rendering : stop.1 = (Visit.madeFrom start.2.counters.widget visits).foldl
    (fun r m => r.add m.plan m.handle) start.1

namespace Tours

variable {x y z : Rendering × BridgeState (σ × List PlatformCall) η κ} {visits more : List Visit}

theorem refl (x : Rendering × BridgeState (σ × List PlatformCall) η κ) : Tours [] x x where
  counter := (Int64.add_zero _).symm
  calls := by rw [fromId_nil, List.append_nil]
  rendering := rfl

theorem append (h : Tours visits x y) (h' : Tours more y z) : Tours (visits ++ more) x z := by
  constructor
  · rw [h'.counter, h.counter, List.length_append, Int64.ofNat_add, Int64.add_assoc]
  · rw [h'.calls, h.calls, h.counter, fromId_append, List.append_assoc]
  · rw [h'.rendering, h.rendering, h.counter, Visit.madeFrom, Visit.madeFrom, Visit.madeFrom,
      fromId_append, List.foldl_append]

/-- A build under an id without a record is one visit. -/
theorem build (platform : Platform σ) {b : BridgeState (σ × List PlatformCall) η κ}
    (hfresh : b.widgets.stateOf b.counters.widget = .unborn) (context : Value) (kind : WidgetKind)
    (a : Attributes) (origin : Point) (r : Rendering) :
    Tours [⟨kind, a, origin, b.answer platform.traced (.ofLeaf kind a origin)⟩] (r, b)
      (b.build platform.traced context (.ofLeaf kind a origin) r).2 := by
  -- The widget is placed where the visit says.
  have hframe : ∀ size, (WidgetPlan.ofLeaf kind a origin).frame (b.nextHandle size) =
      .of origin (.clamped size.width size.height) := by
    intro size
    rw [WidgetPlan.frame, WidgetPlan.origin_ofLeaf]
    rfl
  have hcounter := counter_build platform.traced context (.ofLeaf kind a origin) r b
  rcases build_answer_cases hfresh context r with
    ⟨e, hanswer, hcreated, hbuild⟩ | ⟨size, e, hanswer, hcreated, hplaced, hbuild⟩ |
      ⟨size, hanswer, hcreated, hplaced, hbuild⟩
  · rw [hbuild] at hcounter
    rw [hanswer, hbuild]
    refine ⟨hcounter, ?_, ?_⟩
    · rw [fromId_singleton, calls_afterRequest, hcreated]
      rfl
    · rw [Visit.madeFrom, fromId_singleton]
      rfl
  · rw [hbuild] at hcounter
    rw [hanswer, hbuild]
    refine ⟨hcounter, ?_, ?_⟩
    · rw [fromId_singleton]
      refine (calls_place_afterRequest _ hcreated hplaced).trans ?_
      rw [hframe]
      rfl
    · rw [Visit.madeFrom, fromId_singleton]
      rfl
  · rw [hbuild] at hcounter
    have hplatform : ((b.afterNaming platform.traced context (.ofLeaf kind a origin) r
          size).afterPlacement platform.traced b.counters.widget
            ((WidgetPlan.ofLeaf kind a origin).frame (b.nextHandle size))
            ((WidgetPlan.ofLeaf kind a origin).record size)).platform =
        (platform.traced.place b.counters.widget
          ((WidgetPlan.ofLeaf kind a origin).frame (b.nextHandle size))
          (b.afterRequest platform.traced (.ofLeaf kind a origin)).platform).2 := by
      rw [afterPlacement, afterNaming_platform]
    rw [hanswer, hbuild]
    refine ⟨hcounter, ?_, ?_⟩
    · rw [fromId_singleton]
      refine (congrArg Prod.snd hplatform).trans ?_
      refine (calls_place_afterRequest _ hcreated hplaced).trans ?_
      rw [hframe]
      rfl
    · rw [Visit.madeFrom, fromId_singleton]
      rfl

end Tours

/-- A walk visits all leaves, as long as there is room for them. -/
theorem tours_renderChildren (platform : Platform σ) (layout : LayoutConfig) (context : Value)
    (cursor : StackCursor) (children : List Descriptor) (r : Rendering)
    (b : BridgeState (σ × List PlatformCall) η κ) (hroom : b.Room (Descriptor.leafCounts children)) :
    ∃ visits, visits.map Visit.leaf = Descriptor.leavesAll children ∧
      Tours visits (r, b)
        (b.renderChildren platform.traced layout context cursor children r).2 := by
  induction cursor, children, r, b
    using BridgeState.renderChildren.induct platform.traced layout context fun cursor d r b =>
      b.Room d.leafCount → ∃ visits, visits.map Visit.leaf = d.leaves ∧
        Tours visits (r, b) (b.renderChild platform.traced layout context cursor d r).2 with
  | case1 cursor r b kind a handle r' b' hbuild hroom =>
    have hvisit := Tours.build platform (hroom.unborn Nat.one_pos) context kind a
      (childOrigin layout cursor kind) r
    rw [hbuild] at hvisit
    simp only [BridgeState.renderChild, hbuild]
    exact ⟨_, rfl, hvisit⟩
  | case2 cursor r b kind a e r' b' hbuild hroom =>
    have hvisit := Tours.build platform (hroom.unborn Nat.one_pos) context kind a
      (childOrigin layout cursor kind) r
    rw [hbuild] at hvisit
    simp only [BridgeState.renderChild, hbuild]
    exact ⟨_, rfl, hvisit⟩
  | case3 cursor r b axis name children inner r' b' hinner ih hroom =>
    have hchildren := ih hroom
    rw [hinner] at hchildren
    simp only [BridgeState.renderChild, hinner]
    exact hchildren
  | case4 cursor r b =>
    simp only [BridgeState.renderChildren]
    exact ⟨[], rfl, .refl _⟩
  | case5 cursor r b d rest cursor' r' b' hchild ihchild ih =>
    rw [Descriptor.leafCounts] at hroom
    have htakes := Takes.renderChild platform.traced layout context cursor d r b
    obtain ⟨visits, hleaves, hfirst⟩ := ihchild (hroom.mono (Nat.le_add_right _ _))
    rw [hchild] at htakes hfirst
    obtain ⟨more, hleaves', hrest⟩ := ih (hroom.rest htakes)
    simp only [BridgeState.renderChildren, hchild, Descriptor.leavesAll]
    refine ⟨visits ++ more, ?_, hfirst.append hrest⟩
    rw [List.map_append, hleaves, hleaves']

end BridgeState

namespace Setting

variable [DecidableEq κ] (s : Setting σ η κ)

/-- In every state that a bridge can get into before the ids run out, whatever the platform answers:
    a render with a container at its root visits the leaves in document order, the k-th under the
    k-th id from the counter on.  Its calls are those of the visits, and nothing else is asked of the
    platform.  It hands back the names of the widgets that the platform created, each with the handle
    of the last widget that carries it. -/
theorem render_in_order {b : BridgeState σ η κ} {description : Value} {axis : Axis}
    {name : Option String} {children : List Descriptor} {warnings : List Warning}
    (hread : Descriptor.ofValue description = .ok (.container axis name children, warnings))
    (hb : s.Arises (Descriptor.leafCounts children) b) (context : Value) :
    let drawn := b.render s.platform s.layout context description
    let watched := b.traced.render s.platform.traced s.layout context description
    (watched.1 = drawn.1 ∧ watched.2.untraced = drawn.2) ∧
    ∃ visits table, visits.map Visit.leaf = Descriptor.leavesAll children ∧
      watched.2.calls = fromId Visit.calls b.counters.widget visits ∧
      drawn.1 = .ok (.names table) ∧ Assoc.Sorted table.entries ∧
      (∀ key, (∃ handle, (key, handle) ∈ table.entries) ↔ ∃ v ∈ visits, v.Names key) ∧
      ∀ key handle, (key, handle) ∈ table.entries ↔
        Visit.LastNamed b.counters.widget visits key handle := by
  intro drawn watched
  have hsame : drawn = (watched.1, watched.2.untraced) :=
    BridgeState.untraces_render s.platform s.layout context description b.traced
  have hroom : b.traced.Room (Descriptor.leafCounts children) := ⟨hb.room.words, hb.room.free⟩
  obtain ⟨visits, hleaves, htours⟩ := BridgeState.tours_renderChildren s.platform s.layout context
    (.start axis s.layout.rootOrigin s.layout.spacing) children .empty b.traced hroom
  have hwatched : watched = (.ok (.names
        (Rendering.ofMade (Visit.madeFrom b.counters.widget visits)).names),
      (b.traced.renderChildren s.platform.traced s.layout context
        (.start axis s.layout.rootOrigin s.layout.spacing) children .empty).2.2) := by
    have hrendering := congrArg Rendering.names htours.rendering
    simp only [watched, BridgeState.render, hread, BridgeState.renderTree]
    rw [hrendering]
    rfl
  have hfind : ∀ key handle,
      (key, handle) ∈ (Rendering.ofMade (Visit.madeFrom b.counters.widget visits)).names.entries ↔
        lastMade? (Visit.madeFrom b.counters.widget visits) key = some handle := by
    intro key handle
    rw [← Rendering.find?_names_ofMade]
    exact (Rendering.sorted_names_ofMade _).find?_eq_some_iff.symm
  refine ⟨⟨by rw [hsame], by rw [hsame]⟩, visits,
    (Rendering.ofMade (Visit.madeFrom b.counters.widget visits)).names, hleaves, ?_, ?_, ?_, ?_, ?_⟩
  · rw [hwatched]
    exact htours.calls
  · rw [hsame, hwatched]
  · exact Rendering.sorted_names_ofMade _
  · intro key
    constructor
    · rintro ⟨handle, hentry⟩
      rw [hfind, Visit.lastMade?_madeFrom] at hentry
      obtain ⟨before, v, after, rfl, hname, -, -⟩ := hentry
      exact ⟨v, List.mem_append_right _ List.mem_cons_self, hname⟩
    · rintro ⟨v, hv, hname⟩
      cases hlast : lastMade? (Visit.madeFrom b.counters.widget visits) key with
      | none => exact absurd hname ((Visit.lastMade?_eq_none_iff _ _).mp hlast v hv)
      | some handle => exact ⟨handle, (hfind key handle).mpr hlast⟩
  · intro key handle
    rw [hfind, Visit.lastMade?_madeFrom]

/-- A column with a name, a label, a row of a button without its image and another label, all of one
    other name. -/
def guestForm : Value :=
  let guest (kind : String) (entry : String × Value) : Value :=
    .list [.string kind, .map [entry, ("name", .string "guest")]]
  .list [.string "vertical", .map [("name", .string "form")],
    guest "label" ("text", .string "first"),
    .list [.string "horizontal", guest "label" ("text", .string "last"),
      guest "button" ("image", .string "guest.png")]]

/-- The button is asked for last, and refused; the name stands for the label before it, and there is
    no other name. -/
theorem render_in_order_guestForm :
    let start : BridgeState Recorder (List (List Value)) EchoClass := .initial .standard [] .first
    let drawn := start.render rehearsal.platform rehearsal.layout .nil guestForm
    drawn.1 = .ok (.names ⟨[("guest", ⟨1002, 62, 46⟩)]⟩) ∧
    ∃ visits, visits.length = 3 ∧ Visit.LastNamed 1001 visits "guest" ⟨1002, 62, 46⟩ := by
  intro start drawn
  have hread : Descriptor.ofValue guestForm = .ok (.container .vertical (some "form")
      [.leaf .label { Attributes.none with name := some "guest", text := some "first" },
        .container .horizontal none
          [.leaf .label { Attributes.none with name := some "guest", text := some "last" },
            .leaf .button { Attributes.none with name := some "guest", image := some "guest.png" }]],
      []) := by rfl
  have hstart : rehearsal.Arises 3 start := ⟨.standard, [], .first, [], rfl, by decide⟩
  have houtput : drawn.1 = .ok (.names ⟨[("guest", ⟨1002, 62, 46⟩)]⟩) := by decide +kernel
  obtain ⟨-, visits, table, hleaves, -, htable, -, -, hentries⟩ :=
    rehearsal.render_in_order hread hstart .nil
  have hguest : table = ⟨[("guest", ⟨1002, 62, 46⟩)]⟩ := by
    have hnames := htable.symm.trans houtput
    simpa using hnames
  refine ⟨houtput, visits, ?_, ?_⟩
  · have hlength := congrArg List.length hleaves
    rwa [List.length_map] at hlength
  · apply (hentries "guest" ⟨1002, 62, 46⟩).mp
    rw [hguest]
    exact List.mem_cons_self

end Setting
end ScriptBridge
