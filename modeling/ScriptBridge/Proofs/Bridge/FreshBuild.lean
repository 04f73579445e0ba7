/-
  ScriptBridge/Proofs/Bridge/FreshBuild.lean
  ==========================================
  **Builds under ids that have no record yet.**

  The records never stand in the way of such a build, so the platform alone
  decides what comes of it: it refuses the creation, or only the placement, or
  neither (`Answer`).  A build uses up its id, whatever the answer.

  There is room for some builds when that many of the next ids have no record
  (`Room`).  A walk over a description takes one id for each leaf, and a bridge
  that has come about through actions has room until all words are used up.
-/
import ScriptBridge.Proofs.Bridge.Handout

namespace ScriptBridge

variable {σ η κ : Type}

/-- What the platform answers when it is asked for a widget and, once it created one, to place it. -/
inductive Answer where
  | refused (e : PlatformError)
  | unplaced (size : Size) (e : PlatformError)
  | placed (size : Size)

namespace Answer

/-- The size of the widget, if it was created. -/
def size? : Answer → Option Size
  | .refused _ => none
  | .unplaced size _ => some size
  | .placed size => some size

/-- What the platform refused. -/
def refusal? : Answer → Option PlatformError
  | .refused e => some e
  | .unplaced _ e => some e
  | .placed _ => none

/-- What a build under an id without a record comes to. -/
def outcome (id : WidgetId) : Answer → Except BridgeError WidgetHandle
  | .refused e => .error e.toBridge
  | .unplaced _ e => .error e.toBridge
  | .placed size => .ok ⟨id, size.width, size.height⟩

end Answer

namespace BridgeState

variable {platform : Platform σ} {b b' b'' : BridgeState σ η κ}

/-! ### One build -/

/-- The answers of the platform to the requests that a build makes. -/
def answer (platform : Platform σ) (plan : WidgetPlan) (b : BridgeState σ η κ) : Answer :=
  match b.creationAnswer platform plan with
  | .error e => .refused e
  | .ok size =>
    match (platform.place b.counters.widget (plan.frame (b.nextHandle size))
        (b.afterRequest platform plan).platform).1 with
    | .error e => .unplaced size e
    | .ok () => .placed size

theorem build_answer_cases {plan : WidgetPlan}
    (hfresh : b.widgets.stateOf b.counters.widget = .unborn) (context : Value) (r : Rendering) :
    (∃ e, b.answer platform plan = .refused e ∧ b.creationAnswer platform plan = .error e ∧
      b.build platform context plan r = (.error e.toBridge, r, b.afterRequest platform plan)) ∨
    (∃ size e, b.answer platform plan = .unplaced size e ∧
      b.creationAnswer platform plan = .ok size ∧
      (platform.place b.counters.widget (plan.frame (b.nextHandle size))
        (b.afterRequest platform plan).platform).1 = .error e ∧
      b.build platform context plan r =
        (.error e.toBridge, r.add plan (b.nextHandle size),
          { b.afterNaming platform context plan r size with
            platform := (platform.place b.counters.widget (plan.frame (b.nextHandle size))
              (b.afterRequest platform plan).platform).2 })) ∨
    (∃ size, b.answer platform plan = .placed size ∧ b.creationAnswer platform plan = .ok size ∧
      (platform.place b.counters.widget (plan.frame (b.nextHandle size))
        (b.afterRequest platform plan).platform).1 = .ok () ∧
      b.build platform context plan r =
        (.ok (b.nextHandle size), r.add plan (b.nextHandle size),
          (b.afterNaming platform context plan r size).afterPlacement platform b.counters.widget
            (plan.frame (b.nextHandle size)) (plan.record size))) := by
  unfold answer
  cases hcreated : b.creationAnswer platform plan with
  | error e =>
    refine Or.inl ⟨e, rfl, rfl, ?_⟩
    rcases create_cases platform context r.names plan b with
      ⟨e', hrefused, hcreate⟩ | ⟨size, e', haccepted, -, -⟩ | ⟨size, haccepted, -, -⟩
    · obtain rfl : e = e' := Except.error.inj (hcreated.symm.trans hrefused)
      exact build_of_create_error hcreate
    · rw [hcreated] at haccepted
      cases haccepted
    · rw [hcreated] at haccepted
      cases haccepted
  | ok size =>
    rcases build_of_accepted hcreated hfresh context r with ⟨e, hplaced, hbuild⟩ | ⟨hplaced, hbuild⟩
    · refine Or.inr (Or.inl ⟨size, e, ?_, rfl, hplaced, hbuild⟩)
      simp only [hplaced]
    · refine Or.inr (Or.inr ⟨size, ?_, rfl, hplaced, hbuild⟩)
      simp only [hplaced]

/-- The platform alone decides what comes of a build. -/
theorem build_fst {plan : WidgetPlan} (hfresh : b.widgets.stateOf b.counters.widget = .unborn)
    (context : Value) (r : Rendering) :
    (b.build platform context plan r).1 = (b.answer platform plan).outcome b.counters.widget := by
  rcases build_answer_cases hfresh context r with
    ⟨e, hanswer, -, hbuild⟩ | ⟨size, e, hanswer, -, -, hbuild⟩ | ⟨size, hanswer, -, -, hbuild⟩
  · rw [hanswer, hbuild]
    rfl
  · rw [hanswer, hbuild]
    rfl
  · rw [hanswer, hbuild]
    rfl

/-! ### Ids that are taken -/

/-- The later state has taken so many ids, and its new records are under these. -/
structure Takes (b b' : BridgeState σ η κ) (n : Nat) : Prop where
  counter : b'.counters.widget = b.counters.widget + Int64.ofNat n
  recorded : ∀ id, (b'.widgets.find? id).isSome →
    (b.widgets.find? id).isSome ∨ ∃ k < n, id = b.counters.widget + Int64.ofNat k

namespace Takes

variable {m n : Nat}

theorem refl (b : BridgeState σ η κ) : b.Takes b 0 where
  counter := (Int64.add_zero _).symm
  recorded _ := Or.inl

theorem trans (h : b.Takes b' m) (h' : b'.Takes b'' n) : b.Takes b'' (m + n) := by
  constructor
  · rw [h'.counter, h.counter, Int64.add_assoc, ← Int64.ofNat_add]
  · intro id hid
    rcases h'.recorded id hid with hold | ⟨k, hk, hid'⟩
    · rcases h.recorded id hold with hfirst | ⟨k, hk, hid'⟩
      · exact Or.inl hfirst
      · exact Or.inr ⟨k, by omega, hid'⟩
    · refine Or.inr ⟨m + k, by omega, ?_⟩
      rw [hid', h.counter, Int64.add_assoc, ← Int64.ofNat_add]

theorem build (platform : Platform σ) (context : Value) (plan : WidgetPlan) (r : Rendering)
    (b : BridgeState σ η κ) : b.Takes (b.build platform context plan r).2.2 1 := by
  have hallocates := Allocates.build platform context plan r b
  refine ⟨hallocates.counter, fun id hid => ?_⟩
  rcases hallocates.recorded id hid with hold | ⟨hnext, -⟩
  · exact Or.inl hold
  · exact Or.inr ⟨0, Nat.one_pos, hnext.trans (Int64.add_zero _).symm⟩

/-- A walk takes an id for each leaf. -/
theorem renderChildren (platform : Platform σ) (layout : LayoutConfig) (context : Value)
    (cursor : StackCursor) (children : List Descriptor) (r : Rendering) (b : BridgeState σ η κ) :
    b.Takes (b.renderChildren platform layout context cursor children r).2.2
      (Descriptor.leafCounts children) := by
  induction cursor, children, r, b
    using BridgeState.renderChildren.induct platform layout context fun cursor d r b =>
      b.Takes (b.renderChild platform layout context cursor d r).2.2 d.leafCount with
  | case1 cursor r b kind a handle r' b' hbuild =>
    have hstep := build platform context (.ofLeaf kind a (childOrigin layout cursor kind)) r b
    rw [hbuild] at hstep
    simp only [BridgeState.renderChild, hbuild]
    exact hstep
  | case2 cursor r b kind a e r' b' hbuild =>
    have hstep := build platform context (.ofLeaf kind a (childOrigin layout cursor kind)) r b
    rw [hbuild] at hstep
    simp only [BridgeState.renderChild, hbuild]
    exact hstep
  | case3 cursor r b axis name children inner r' b' hinner ih =>
    rw [hinner] at ih
    simp only [BridgeState.renderChild, hinner]
    exact ih
  | case4 cursor r b =>
    simp only [BridgeState.renderChildren, Descriptor.leafCounts]
    exact .refl b
  | case5 cursor r b d rest cursor' r' b' hchild ihchild ih =>
    rw [hchild] at ihchild
    simp only [BridgeState.renderChildren, hchild, Descriptor.leafCounts]
    exact ihchild.trans ih

theorem renderChild (platform : Platform σ) (layout : LayoutConfig) (context : Value)
    (cursor : StackCursor) (d : Descriptor) (r : Rendering) (b : BridgeState σ η κ) :
    b.Takes (b.renderChild platform layout context cursor d r).2.2 d.leafCount := by
  have hsingle := renderChildren platform layout context cursor [d] r b
  simp only [BridgeState.renderChildren, Descriptor.leafCounts, Nat.add_zero] at hsingle
  exact hsingle

end Takes

/-! ### Room for more -/

/-- So many of the next ids are different words without a record. -/
structure Room (b : BridgeState σ η κ) (n : Nat) : Prop where
  words : n ≤ Int64.size
  free : ∀ k < n, b.widgets.find? (b.counters.widget + Int64.ofNat k) = none

namespace Room

variable {m n : Nat}

theorem mono (h : b.Room n) (hmn : m ≤ n) : b.Room m :=
  ⟨Nat.le_trans hmn h.words, fun k hk => h.free k (Nat.lt_of_lt_of_le hk hmn)⟩

/-- The next id has no record. -/
theorem unborn (h : b.Room n) (hn : 0 < n) : b.widgets.stateOf b.counters.widget = .unborn := by
  have hzero : b.counters.widget + Int64.ofNat 0 = b.counters.widget := Int64.add_zero _
  have hnext := h.free 0 hn
  rw [hzero] at hnext
  exact WidgetTable.stateOf_of_find?_none hnext

/-- What takes some of the ids leaves room under the others. -/
theorem rest (h : b.Room (m + n)) (htakes : b.Takes b' m) : b'.Room n := by
  have hwords := h.words
  refine ⟨by omega, fun k hk => ?_⟩
  rw [htakes.counter, Int64.add_assoc, ← Int64.ofNat_add, ← Option.not_isSome_iff_eq_none]
  intro hrecorded
  rcases htakes.recorded _ hrecorded with hold | ⟨j, hj, heq⟩
  · rw [h.free (m + k) (by omega)] at hold
    cases hold
  · have hsteps := steps_eq_of_add_eq b.counters.widget (by omega) (by omega) heq
    omega

end Room
end BridgeState

/-! ### Bridges that have come about -/

/-- The bridge has come about through actions, here and on other bridges, that leave so many widget
    ids of the process unused. -/
def Setting.Arises [DecidableEq κ] (s : Setting σ η κ) (left : Nat) (b : BridgeState σ η κ) : Prop :=
  ∃ (p : σ) (h : η) (counters : Counters) (actions : List (Action η κ)),
    (s.actAll actions (.initial p h counters)).state = b ∧
      Action.widgetsAll actions + left ≤ Int64.size

/-- Some actions take the numbering as far as the ids that they use up. -/
theorem Setting.numbered_actAll [DecidableEq κ] (s : Setting σ η κ) (actions : List (Action η κ))
    {c : Chronicle σ η κ} {start : WidgetId} {used : Nat}
    (h : c.state.widgets.Numbered c.state.counters.widget start used) :
    (s.actAll actions c).state.widgets.Numbered (s.actAll actions c).state.counters.widget start
      (used + Action.widgetsAll actions) := by
  induction actions generalizing c used with
  | nil => exact h
  | cons a actions ih =>
    have hrest := ih (s.numbered_act a h)
    rw [Nat.add_assoc] at hrest
    exact hrest

namespace Setting.Arises

variable [DecidableEq κ] {s : Setting σ η κ} {left : Nat} {b : BridgeState σ η κ}

/-- The records are numbered from some id on, and the ids that are left come after them. -/
theorem numbered (h : s.Arises left b) : ∃ start used, used + left ≤ Int64.size ∧
    b.widgets.Numbered b.counters.widget start used := by
  obtain ⟨p, host, counters, actions, rfl, hleft⟩ := h
  have hstart : (Chronicle.initial p host counters : Chronicle σ η κ).state.widgets.Numbered
      counters.widget counters.widget 0 := .initial counters.widget
  refine ⟨counters.widget, 0 + Action.widgetsAll actions, by omega, ?_⟩
  exact s.numbered_actAll actions hstart

theorem room (h : s.Arises left b) : b.Room left := by
  obtain ⟨start, used, hleft, hnumbered⟩ := h.numbered
  refine ⟨by omega, fun k hk => ?_⟩
  rw [← Option.not_isSome_iff_eq_none]
  intro hrecorded
  obtain ⟨i, hi, heq⟩ := hnumbered.taken _ hrecorded
  rw [hnumbered.next_eq, Int64.add_assoc, ← Int64.ofNat_add] at heq
  have hsteps := steps_eq_of_add_eq start (by omega) (by omega) heq
  omega

/-- No record says that its widget was never born. -/
theorem born (h : s.Arises left b) {id : WidgetId} {w : WidgetRecord}
    (hw : b.widgets.find? id = some w) : w.state ≠ .unborn := by
  obtain ⟨p, host, counters, actions, rfl, -⟩ := h
  exact (s.orderly_actAll actions (Chronicle.orderly_initial p host counters)).born id w hw

end Setting.Arises
end ScriptBridge
