/-
  ScriptBridge/Proofs/Bridge/Handout.lean
  =======================================
  **The handles that scripts get, and the records behind them.**

  The size that the platform answers goes three ways.  It is the size of the
  handle that the script gets, as it is; it is the size of the new record, as it
  is; and it is the size that the widget is placed with, negative sides raised to
  zero.  So a handle agrees with its record until the widget is placed, and from
  then on if the platform measured no negative side (`HandedOut`).  It agrees
  with what is found under its name in just the same cases, since every name of a
  rendering stands for the last widget made under it, which is also the one that
  the records give (`find_handed`).
-/
import ScriptBridge.Proofs.Bridge.Naming
import ScriptBridge.Proofs.Bridge.Rendered
import ScriptBridge.Proofs.Layout.Stack
import ScriptBridge.Rehearsal.Platform

namespace ScriptBridge

variable {σ η κ : Type}

/-! ### How many widgets a description asks for -/

namespace Descriptor

mutual

def leafCount : Descriptor → Nat
  | .leaf .. => 1
  | .container _ _ children => leafCounts children

def leafCounts : List Descriptor → Nat
  | [] => 0
  | d :: rest => leafCount d + leafCounts rest

end

/-- The number of widgets that the render of a value asks for. -/
def requests (description : Value) : Nat :=
  match ofValue description with
  | .ok (d, _) => d.leafCount
  | .error _ => 0

end Descriptor

/-! ### Handles and records -/

/-- The id of a widget that was made, and the name that it was given. -/
def Made.entry (m : Made) : WidgetId × Option String := (m.handle.id, m.plan.name)

/-- The handle of a widget that is placed with the size of the handle. -/
def WidgetHandle.clamped (h : WidgetHandle) : WidgetHandle := ⟨h.id, max h.width 0, max h.height 0⟩

/-- The platform answers a creation with the size of the handle. -/
def Platform.Answers (platform : Platform σ) (h : WidgetHandle) : Prop :=
  ∃ id blueprint p, (platform.create id blueprint p).1 = .ok ⟨h.width, h.height⟩

/-- The platform measures no negative side. -/
def Platform.Measures (platform : Platform σ) : Prop :=
  ∀ id blueprint p size, (platform.create id blueprint p).1 = .ok size →
    0 ≤ size.width ∧ 0 ≤ size.height

/-- The record is that of a new widget which got the handle, placed or not. -/
def WidgetRecord.IsFor (w : WidgetRecord) (h : WidgetHandle) : Prop :=
  (w.state = .created ∧ w.handle h.id = h) ∨ (w.state = .placed ∧ w.handle h.id = h.clamped)

/-- The handle has the size that the platform answered, and there is a record for it. -/
structure BridgeState.HandedOut (platform : Platform σ) (b : BridgeState σ η κ) (h : WidgetHandle) :
    Prop where
  answered : platform.Answers h
  recorded : ∃ w, b.widgets.find? h.id = some w ∧ w.IsFor h

theorem Word.max_zero_eq_self {a : Int64} : max a 0 = a ↔ 0 ≤ a := by
  rw [← Int64.toInt_inj, Word.toInt_max, Int64.le_iff_toInt_le]
  exact max_eq_left_iff

theorem WidgetHandle.clamped_eq_self {h : WidgetHandle} :
    h.clamped = h ↔ 0 ≤ h.width ∧ 0 ≤ h.height := by
  rw [← Word.max_zero_eq_self, ← Word.max_zero_eq_self]
  cases h
  simp [clamped]

namespace BridgeState

variable {platform : Platform σ} {b b' : BridgeState σ η κ} {h : WidgetHandle}

/-- The handle agrees with its record before the widget is placed, and after that if no side is
    negative. -/
theorem HandedOut.agrees_iff (hout : b.HandedOut platform h) {w : WidgetRecord}
    (hw : b.widgets.find? h.id = some w) :
    w.handle h.id = h ↔ w.state = .created ∨ 0 ≤ h.width ∧ 0 ≤ h.height := by
  obtain ⟨w', hw', hfor⟩ := hout.recorded
  obtain rfl : w = w' := Option.some.inj (hw.symm.trans hw')
  rw [← WidgetHandle.clamped_eq_self]
  rcases hfor with ⟨hstate, hhandle⟩ | ⟨hstate, hhandle⟩
  · exact iff_of_true hhandle (Or.inl hstate)
  · rw [hhandle, hstate]
    simp

/-! ### One widget -/

theorem answers_of_made? {context : Value} {plan : WidgetPlan} {r : Rendering} {m : Made}
    (hm : b.made? platform context plan r = some m) : platform.Answers m.handle := by
  unfold made? at hm
  rcases create_cases platform context r.names plan b with
    ⟨e, -, hcreate⟩ | ⟨size, e, -, -, hcreate⟩ | ⟨size, hanswer, -, hcreate⟩
  · rw [hcreate] at hm
    cases hm
  · rw [hcreate] at hm
    cases hm
  · rw [hcreate] at hm
    cases hm
    exact ⟨_, _, _, hanswer⟩

/-- A build that hands out a handle made the widget of the handle. -/
theorem made?_of_build {context : Value} {plan : WidgetPlan} {r : Rendering}
    (hbuild : (b.build platform context plan r).1 = .ok h) :
    b.made? platform context plan r = some ⟨plan, h⟩ := by
  unfold made?
  rcases hcreate : b.create platform context r.names plan with ⟨result, b'⟩
  cases result with
  | error e =>
    rw [build_of_create_error hcreate] at hbuild
    cases hbuild
  | ok handle =>
    simp only [build, hcreate] at hbuild
    split at hbuild
    · cases hbuild
    · cases hbuild
      rfl

/-- The record of a new widget, once it was to be placed. -/
theorem isFor_place {plan : WidgetPlan} {size : Size}
    (hw : b.widgets.find? h.id = some (plan.record size))
    (hsize : h.width = size.width ∧ h.height = size.height) :
    ∃ w, (b.place platform h.id (plan.frame h)).2.widgets.find? h.id = some w ∧ w.IsFor h := by
  obtain ⟨id, width, height⟩ := h
  obtain ⟨rfl, rfl⟩ := hsize
  rcases place_cases platform id (plan.frame ⟨id, size.width, size.height⟩) b with
    ⟨-, e, heq⟩ | ⟨e, -, -, heq⟩ | ⟨w, hw', -, -, heq⟩
  · rw [heq]
    exact ⟨_, hw, Or.inl ⟨rfl, rfl⟩⟩
  · rw [heq]
    exact ⟨_, hw, Or.inl ⟨rfl, rfl⟩⟩
  · rw [heq, afterPlacement, WidgetTable.find?_set, if_pos rfl]
    obtain rfl : plan.record size = w := Option.some.inj (hw.symm.trans hw')
    exact ⟨_, rfl, Or.inr ⟨rfl, rfl⟩⟩

/-- Placing one widget leaves the records of the others. -/
theorem find?_place_of_ne {id id' : WidgetId} (hne : id ≠ id') (frame : Frame) :
    (b.place platform id frame).2.widgets.find? id' = b.widgets.find? id' := by
  rcases place_cases platform id frame b with ⟨-, e, heq⟩ | ⟨e, -, -, heq⟩ | ⟨w, -, -, -, heq⟩
  · rw [heq]
  · rw [heq]
  · rw [heq, afterPlacement, WidgetTable.find?_set, if_neg hne]

/-! ### The walk -/

/-- A point of a render that made some widgets: the records list them after those of the start, and
    there is a handle handed out for each. -/
structure Handed (platform : Platform σ) (entries : List (WidgetId × Option String))
    (made : List Made) (b : BridgeState σ η κ) : Prop where
  lists : b.widgets.Lists (entries ++ made.map Made.entry)
  above : ∀ e ∈ entries ++ made.map Made.entry, e.1 < b.counters.widget
  out : ∀ m ∈ made, b.HandedOut platform m.handle

namespace Handed

variable {entries : List (WidgetId × Option String)} {made : List Made}

theorem start (hlists : b.widgets.Lists entries) (habove : ∀ e ∈ entries, e.1 < b.counters.widget) :
    Handed platform entries [] b where
  lists := by rwa [List.map_nil, List.append_nil]
  above := by rwa [List.map_nil, List.append_nil]
  out _ hm := absurd hm List.not_mem_nil

/-- A used-up id. -/
theorem request (hb : Handed platform entries made b) (plan : WidgetPlan)
    (hroom : b.counters.widget.toInt + 1 ≤ Int64.maxValue.toInt) :
    Handed platform entries made (b.afterRequest platform plan) where
  lists := hb.lists
  above e he := Int64.lt_trans (hb.above e he) (lt_add_ofNat (n := 1) hroom Nat.one_pos)
  out m hm := ⟨(hb.out m hm).answered, (hb.out m hm).recorded⟩

theorem one (hb : Handed platform entries made b) {plan : WidgetPlan} {size : Size}
    (hroom : b.counters.widget.toInt + 1 ≤ Int64.maxValue.toInt)
    (hanswer : platform.Answers (b.nextHandle size)) (context : Value) (r : Rendering) :
    Handed platform entries (made ++ [⟨plan, b.nextHandle size⟩])
      ((b.afterNaming platform context plan r size).place platform b.counters.widget
        (plan.frame (b.nextHandle size))).2 := by
  have hwidgets : (b.afterNaming platform context plan r size).widgets =
      b.widgets.set b.counters.widget (plan.record size) := afterNaming_widgets ..
  have hnext : b.counters.widget < (b.afterRequest platform plan).counters.widget :=
    lt_add_ofNat (n := 1) hroom Nat.one_pos
  constructor
  · apply lists_place
    rw [hwidgets, List.map_append, ← List.append_assoc]
    exact hb.lists.set_above hb.above (plan.record size)
  · intro e he
    rw [place_counters, afterNaming_counters]
    rw [List.map_append, ← List.append_assoc] at he
    rcases List.mem_append.mp he with he | he
    · exact Int64.lt_trans (hb.above e he) hnext
    · rw [List.mem_singleton.mp he]
      exact hnext
  · intro m hm
    rcases List.mem_append.mp hm with hm | hm
    · -- The widgets made before come before the new one.
      have hlt : m.handle.id < b.counters.widget := by
        apply hb.above m.entry
        exact List.mem_append_right _ (List.mem_map_of_mem hm)
      have hne : b.counters.widget ≠ m.handle.id := by
        intro heq
        rw [heq] at hlt
        exact Int64.lt_irrefl hlt
      refine ⟨(hb.out m hm).answered, ?_⟩
      rw [find?_place_of_ne hne, hwidgets, WidgetTable.find?_set, if_neg hne]
      exact (hb.out m hm).recorded
    · obtain rfl := List.mem_singleton.mp hm
      refine ⟨hanswer, ?_⟩
      have hrecord : (b.afterNaming platform context plan r size).widgets.find?
          (b.nextHandle size).id = some (plan.record size) := by
        rw [hwidgets, nextHandle, WidgetTable.find?_set, if_pos rfl]
      exact isFor_place hrecord ⟨rfl, rfl⟩

theorem build (hb : Handed platform entries made b)
    (hroom : b.counters.widget.toInt + 1 ≤ Int64.maxValue.toInt) (context : Value)
    (plan : WidgetPlan) (r : Rendering) :
    Handed platform entries (made ++ (b.made? platform context plan r).toList)
      (b.build platform context plan r).2.2 := by
  rcases build_made_cases platform context plan r b with ⟨hmade, heq⟩ | ⟨size, -, hmade, heq⟩
  · rw [hmade, heq, Option.toList_none, List.append_nil]
    exact hb.request plan hroom
  · have hanswer := answers_of_made? hmade
    rw [hmade, heq, Option.toList_some]
    exact hb.one hroom hanswer context r

end Handed

theorem counter_build (platform : Platform σ) (context : Value) (plan : WidgetPlan) (r : Rendering)
    (b : BridgeState σ η κ) :
    (b.build platform context plan r).2.2.counters.widget = b.counters.widget + Int64.ofNat 1 :=
  (Allocates.build platform context plan r b).counter

/-- Along the walk, as long as there is an id for each leaf; it uses up just these. -/
theorem Handed.renderChildren {entries : List (WidgetId × Option String)} {made : List Made}
    (layout : LayoutConfig) (context : Value) (cursor : StackCursor) (children : List Descriptor)
    (r : Rendering) (b : BridgeState σ η κ) (hb : Handed platform entries made b)
    (hroom : b.counters.widget.toInt + Descriptor.leafCounts children ≤ Int64.maxValue.toInt) :
    Handed platform entries (made ++ b.childrenMade platform layout context cursor children r)
        (b.renderChildren platform layout context cursor children r).2.2 ∧
      (b.renderChildren platform layout context cursor children r).2.2.counters.widget =
        b.counters.widget + Int64.ofNat (Descriptor.leafCounts children) := by
  induction cursor, children, r, b
    using BridgeState.renderChildren.induct platform layout context fun cursor d r b =>
      ∀ made, Handed platform entries made b →
        b.counters.widget.toInt + d.leafCount ≤ Int64.maxValue.toInt →
        Handed platform entries (made ++ b.childMade platform layout context cursor d r)
          (b.renderChild platform layout context cursor d r).2.2 ∧
        (b.renderChild platform layout context cursor d r).2.2.counters.widget =
          b.counters.widget + Int64.ofNat d.leafCount
    generalizing made with
  | case1 cursor r b kind a handle r' b' hbuild made hb hroom =>
    have hstep := hb.build hroom context (.ofLeaf kind a (childOrigin layout cursor kind)) r
    have hcounter := counter_build platform context
      (.ofLeaf kind a (childOrigin layout cursor kind)) r b
    rw [hbuild] at hstep hcounter
    simp only [BridgeState.renderChild, childMade, hbuild]
    exact ⟨hstep, hcounter⟩
  | case2 cursor r b kind a e r' b' hbuild made hb hroom =>
    have hstep := hb.build hroom context (.ofLeaf kind a (childOrigin layout cursor kind)) r
    have hcounter := counter_build platform context
      (.ofLeaf kind a (childOrigin layout cursor kind)) r b
    rw [hbuild] at hstep hcounter
    simp only [BridgeState.renderChild, childMade, hbuild]
    exact ⟨hstep, hcounter⟩
  | case3 cursor r b axis name children inner r' b' hinner ih made hb hroom =>
    have hchildren := ih hb hroom
    rw [hinner] at hchildren
    simp only [BridgeState.renderChild, childMade, hinner]
    exact hchildren
  | case4 cursor r b =>
    simp only [BridgeState.renderChildren, childrenMade, List.append_nil, Descriptor.leafCounts]
    exact ⟨hb, (Int64.add_zero _).symm⟩
  | case5 cursor r b d rest cursor' r' b' hchild ihchild ih =>
    rw [Descriptor.leafCounts, Int.natCast_add, ← Int.add_assoc] at hroom
    have hfirst := ihchild made hb (by omega)
    rw [hchild] at hfirst
    obtain ⟨hb', hcounter⟩ := hfirst
    have hroom' : b'.counters.widget.toInt + Descriptor.leafCounts rest ≤ Int64.maxValue.toInt := by
      rw [hcounter, toInt_add_ofNat (by omega)]
      exact hroom
    obtain ⟨hafter, hcounter'⟩ := ih hb' hroom'
    simp only [BridgeState.renderChildren, childrenMade, hchild, ← List.append_assoc,
      Descriptor.leafCounts]
    refine ⟨hafter, ?_⟩
    rw [hcounter', hcounter, Int64.add_assoc, ← Int64.ofNat_add]

/-! ### Whole renders -/

theorem Handed.buildAlone {entries : List (WidgetId × Option String)}
    (hb : Handed platform entries [] b)
    (hroom : b.counters.widget.toInt + 1 ≤ Int64.maxValue.toInt) (context : Value)
    (plan : WidgetPlan) :
    Handed platform entries (b.made? platform context plan .empty).toList
      (b.buildAlone platform context plan).2 :=
  hb.build hroom context plan .empty

theorem Handed.render {entries : List (WidgetId × Option String)}
    (hb : Handed platform entries [] b) {description : Value}
    (hroom : b.counters.widget.toInt + Descriptor.requests description ≤ Int64.maxValue.toInt)
    (layout : LayoutConfig) (context : Value) :
    Handed platform entries (b.madeBy platform layout context description)
      (b.render platform layout context description).2 := by
  unfold Descriptor.requests at hroom
  unfold BridgeState.render madeBy
  cases hread : Descriptor.ofValue description with
  | error e => exact hb
  | ok read =>
    obtain ⟨d, warnings⟩ := read
    rw [hread] at hroom
    cases d with
    | leaf kind a => exact hb.buildAlone hroom context _
    | container axis name children =>
      exact (hb.renderChildren layout context _ children .empty b hroom).1

/-- A build that hands out a handle. -/
theorem Handed.handedOut_buildAlone {entries : List (WidgetId × Option String)}
    (hb : Handed platform entries [] b)
    (hroom : b.counters.widget.toInt + 1 ≤ Int64.maxValue.toInt) {context : Value}
    {plan : WidgetPlan} (hbuild : (b.buildAlone platform context plan).1 = .ok h) :
    (b.buildAlone platform context plan).2.HandedOut platform h := by
  have hafter := hb.buildAlone hroom context plan
  rw [made?_of_build hbuild, Option.toList_some] at hafter
  exact hafter.out _ (List.mem_singleton.mpr rfl)

/-- A widget method that succeeds returns a handle as a triple. -/
theorem Handed.handedOut_systemWidget {entries : List (WidgetId × Option String)}
    (hb : Handed platform entries [] b)
    (hroom : b.counters.widget.toInt + 1 ≤ Int64.maxValue.toInt) {kind : WidgetKind} {args : Args}
    {v : Value} (hv : (b.systemWidget platform kind args).1 = .ok v) :
    ∃ h, v = h.toTriple ∧ (b.systemWidget platform kind args).2.HandedOut platform h := by
  unfold systemWidget at hv ⊢
  cases hargs : widgetArgs kind args with
  | error e =>
    rw [hargs] at hv
    cases hv
  | ok asked =>
    obtain ⟨context, plan⟩ := asked
    rcases hbuild : b.buildAlone platform context plan with ⟨result, b'⟩
    simp only [hargs, hbuild] at hv ⊢
    cases result with
    | error e => cases hv
    | ok h =>
      cases hv
      have hout := hb.handedOut_buildAlone hroom (congrArg Prod.fst hbuild)
      rw [hbuild] at hout
      exact ⟨h, rfl, hout⟩

/-- A render that hands back a single widget made it. -/
theorem made_of_render {layout : LayoutConfig} {context description : Value}
    (hleaf : (b.render platform layout context description).1 = .ok (.leaf h)) :
    ∃ m ∈ b.madeBy platform layout context description, m.handle = h := by
  unfold BridgeState.render at hleaf
  unfold madeBy
  cases hread : Descriptor.ofValue description with
  | error e =>
    rw [hread] at hleaf
    cases hleaf
  | ok read =>
    obtain ⟨d, warnings⟩ := read
    rw [hread] at hleaf
    cases d with
    | container axis name children => cases hleaf
    | leaf kind a =>
      simp only [renderTree] at hleaf
      cases hbuild : (b.buildAlone platform context (.ofLeaf kind a layout.rootOrigin)).1 with
      | error e =>
        rw [hbuild] at hleaf
        cases hleaf
      | ok handle =>
        rw [hbuild] at hleaf
        cases hleaf
        have hmade := made?_of_build hbuild
        exact ⟨_, Option.mem_toList.mpr hmade, rfl⟩

/-- A name of a rendering stands for a widget that was made, and the records give the same. -/
theorem Handed.find_handed {entries : List (WidgetId × Option String)} {made : List Made}
    (hb : Handed platform entries made b) {name : String}
    (hname : (Rendering.ofMade made).names.find? name = some h) :
    b.HandedOut platform h ∧
      ∃ w, b.widgets.find? h.id = some w ∧ b.widgets.findNamed? name = some (h.id, w) := by
  rw [Rendering.find?_names_ofMade] at hname
  obtain ⟨m, hm, rfl⟩ := Option.map_eq_some_iff.mp hname
  have hmem : m ∈ made := List.mem_reverse.mp (List.mem_of_find?_eq_some hm)
  have hlast : (entries ++ made.map Made.entry).reverse.find? (fun e => e.2 == some name) =
      some m.entry := by
    have hmade : (made.reverse.map Made.entry).find? (fun e => e.2 == some name) =
        some m.entry := by
      rw [List.find?_map]
      exact congrArg (Option.map Made.entry) hm
    rw [List.reverse_append, ← List.map_reverse, List.find?_append, hmade, Option.some_or]
  have hid := hb.lists.id_findNamed? name
  rw [hlast, Option.map_some] at hid
  obtain ⟨⟨id, w⟩, hfound, rfl⟩ := Option.map_eq_some_iff.mp hid
  have hw : (m.handle.id, w) ∈ b.widgets.records :=
    List.mem_reverse.mp (List.mem_of_find?_eq_some hfound)
  exact ⟨hb.out m hmem, w, hb.lists.ordered.find?_eq_some_iff.mpr hw, hfound⟩

end BridgeState

/-! ### What scripts get -/

/-- The handles in what a render hands back. -/
def RenderOutput.handles : RenderOutput → List WidgetHandle
  | .names table => table.entries.map Prod.snd
  | .leaf handle => [handle]

/-- The number of widget ids that some actions use up. -/
def Action.widgetsAll (actions : List (Action η κ)) : Nat := (actions.map Action.widgets).sum

namespace Setting

variable [DecidableEq κ] (s : Setting σ η κ)

/-- Some actions keep the records in step with the creations, as long as the counter can count on. -/
theorem named_actAll (actions : List (Action η κ)) {c : Chronicle σ η κ}
    (h : c.Named c.state.counters.widget) (room : Nat)
    (hroom : c.state.counters.widget.toInt + (Action.widgetsAll actions + room : Nat) ≤
      Int64.maxValue.toInt) :
    (s.actAll actions c).Named (s.actAll actions c).state.counters.widget ∧
      (s.actAll actions c).state.counters.widget.toInt + room ≤ Int64.maxValue.toInt := by
  induction actions generalizing c with
  | nil =>
    simp only [Action.widgetsAll, List.map_nil, List.sum_nil, Nat.zero_add] at hroom
    exact ⟨h, hroom⟩
  | cons a actions ih =>
    simp only [Action.widgetsAll, List.map_cons, List.sum_cons] at hroom
    have hcounter := (s.allocates_act a c).counter
    apply ih (s.named_act a h (by omega))
    rw [hcounter, toInt_add_ofNat (by omega), Action.widgetsAll]
    omega

/-- In every state that a bridge can get into before the ids run out, whatever the platform answers:
    a render and a widget method hand out the size that the platform answered.  The record of the widget
    has the same size, but with negative sides raised to zero once the widget is placed.  Each name of
    a render is found again, with the handle of the record.  So if the platform never measures a negative
    side, the handles have none, and they are those of the records and those found by name. -/
theorem handles_given (p : σ) (h : η) (counters : Counters) (actions : List (Action η κ))
    (context description : Value) (kind : WidgetKind) (args : Args)
    (hroom : counters.widget.toInt +
      (Action.widgetsAll actions + max 1 (Descriptor.requests description) : Nat) ≤
        Int64.maxValue.toInt) :
    let b := (s.actAll actions (.initial p h counters)).state
    let drawn := b.render s.platform s.layout context description
    let called := b.systemWidget s.platform kind args
    (∀ output, drawn.1 = .ok output →
      ∀ handle ∈ output.handles, drawn.2.HandedOut s.platform handle) ∧
    (∀ v, called.1 = .ok v →
      ∃ handle, v = handle.toTriple ∧ called.2.HandedOut s.platform handle) ∧
    (∀ table, drawn.1 = .ok (.names table) → ∀ name handle, (name, handle) ∈ table.entries →
      ∃ w, drawn.2.widgets.find? handle.id = some w ∧
        (Bridge.mk s drawn.2).findWidget name = some (w.handle handle.id)) ∧
    (s.platform.Measures → ∀ (b' : BridgeState σ η κ) handle, b'.HandedOut s.platform handle →
      0 ≤ handle.width ∧ 0 ≤ handle.height ∧
        ∀ w, b'.widgets.find? handle.id = some w → w.handle handle.id = handle) := by
  intro b drawn called
  obtain ⟨hnamed, hrest⟩ := s.named_actAll actions
    (Chronicle.Named.initial p h counters counters.widget) _ hroom
  change b.counters.widget.toInt + _ ≤ _ at hrest
  have hstart : BridgeState.Handed s.platform _ [] b := .start hnamed.lists hnamed.above
  have hdrawn : BridgeState.Handed s.platform _ (b.madeBy s.platform s.layout context description)
      drawn.2 := hstart.render (by omega) s.layout context
  have hnames : ∀ table, drawn.1 = .ok (.names table) → ∀ name handle,
      (name, handle) ∈ table.entries → drawn.2.HandedOut s.platform handle ∧
        ∃ w, drawn.2.widgets.find? handle.id = some w ∧
          drawn.2.widgets.findNamed? name = some (handle.id, w) := by
    intro table htable name handle hmem
    rw [BridgeState.names_of_render htable] at hmem
    exact hdrawn.find_handed ((Rendering.sorted_names_ofMade _).find?_eq_some_iff.mpr hmem)
  refine ⟨?_, ?_, ?_, ?_⟩
  · intro output houtput handle hhandle
    cases output with
    | names table =>
      obtain ⟨⟨name, handle'⟩, hmem, rfl⟩ := List.mem_map.mp hhandle
      exact (hnames table houtput name _ hmem).1
    | leaf handle' =>
      obtain rfl := List.mem_singleton.mp hhandle
      obtain ⟨m, hm, rfl⟩ := BridgeState.made_of_render houtput
      exact hdrawn.out m hm
  · intro v hv
    exact hstart.handedOut_systemWidget (by omega) hv
  · intro table htable name handle hmem
    obtain ⟨-, w, hw, hfound⟩ := hnames table htable name handle hmem
    refine ⟨w, hw, ?_⟩
    rw [Bridge.findWidget, hfound]
    rfl
  · intro hmeasures b' handle hout
    obtain ⟨id, blueprint, q, hanswer⟩ := hout.answered
    obtain ⟨hwidth, hheight⟩ := hmeasures id blueprint q _ hanswer
    exact ⟨hwidth, hheight, fun w hw => (hout.agrees_iff hw).mpr (Or.inr ⟨hwidth, hheight⟩)⟩

/-- A description with one named label. -/
def greetingLabel : Value :=
  .list [.string "vertical",
    .list [.string "label", .map [("name", .string "greeting"), ("text", .string "hello")]]]

/-- The name of a render is found again. -/
theorem handles_given_greeting :
    let start : BridgeState Recorder (List (List Value)) EchoClass := .initial .standard [] .first
    let drawn := start.render rehearsal.platform rehearsal.layout .nil greetingLabel
    drawn.1 = .ok (.names ⟨[("greeting", ⟨1001, 70, 46⟩)]⟩) ∧
    ∃ w, drawn.2.widgets.find? 1001 = some w ∧
      (Bridge.mk rehearsal drawn.2).findWidget "greeting" = some (w.handle 1001) := by
  intro start drawn
  have houtput : drawn.1 = .ok (.names ⟨[("greeting", ⟨1001, 70, 46⟩)]⟩) := by decide +kernel
  have hgiven := rehearsal.handles_given .standard [] .first [] .nil greetingLabel .label ⟨[]⟩
    (by decide +kernel)
  exact ⟨houtput, hgiven.2.2.1 _ houtput "greeting" ⟨1001, 70, 46⟩ List.mem_cons_self⟩

/-- The setting for examples, where labels measure less than nothing. -/
def shrinking : Setting Recorder (List (List Value)) EchoClass :=
  { rehearsal with
    platform := Rehearsal.PlatformPlan.apply ⟨[], [("label", ⟨-5, -7⟩)]⟩ rehearsal.platform }

/-- A label of negative size: the script gets the negative sides, the record and the name do not. -/
theorem handles_differ_shrinking :
    let start : BridgeState Recorder (List (List Value)) EchoClass := .initial .standard [] .first
    let called := start.systemWidget shrinking.platform .label
      ⟨[.nil, .int 0, .int 0, .string "a"]⟩
    let drawn := start.render shrinking.platform shrinking.layout .nil greetingLabel
    called.1 = .ok (.list [.int 1001, .int (-5), .int (-7)]) ∧
    (called.2.widgets.find? 1001).map (fun w => w.handle 1001) = some ⟨1001, 0, 0⟩ ∧
    drawn.1 = .ok (.names ⟨[("greeting", ⟨1001, -5, -7⟩)]⟩) ∧
    (Bridge.mk shrinking drawn.2).findWidget "greeting" = some ⟨1001, 0, 0⟩ := by
  decide +kernel

end Setting
end ScriptBridge
