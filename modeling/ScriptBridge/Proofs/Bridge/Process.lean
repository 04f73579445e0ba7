/-
  ScriptBridge/Proofs/Bridge/Process.lean
  =======================================
  **All bridges of a process, and the ids that they hand to their platforms.**

  The bridges of a process have nothing in common but the counters.  What happens
  to them is one sequence of steps, each an action on one of the bridges with the
  counters as the step before left them, on whatever bridge that was.  Bridges
  may have platforms, hosts and classes of different types.

  A step keeps the records of every bridge in step with its creations: of the
  bridge that acts by `named_act`, and of all others since the next id only moves
  on.  `widget_naming` follows by induction over the steps.
-/
import Mathlib.Logic.Function.Basic
import ScriptBridge.Proofs.Bridge.Naming

namespace ScriptBridge

/-! ### What a platform hears -/

section Hearing

variable {σ η κ : Type}

/-- The ids that an action hands to the platform, given the next one. -/
def Action.asks (next : WidgetId) : Action η κ → List WidgetId
  | .build _ _ _ => [next]
  | _ => []

/-- The state of the platform tells under which ids it was asked to create widgets. -/
structure Platform.Hears (platform : Platform σ) (heard : σ → List WidgetId) : Prop where
  create : ∀ id blueprint p, heard (platform.create id blueprint p).2 = heard p ++ [id]
  place : ∀ id frame p, heard (platform.place id frame p).2 = heard p
  setText : ∀ id text p, heard (platform.setText id text p).2 = heard p
  read : ∀ path p, heard (platform.read path p).2 = heard p
  window : ∀ width height p, heard (platform.window width height p).2 = heard p
  print : ∀ line p, heard (platform.print line p) = heard p

variable {platform : Platform σ} {heard : σ → List WidgetId} {b : BridgeState σ η κ}

theorem heard_place (h : platform.Hears heard) (id : WidgetId) (frame : Frame) :
    heard (b.place platform id frame).2.platform = heard b.platform := by
  rcases b.place_cases platform id frame with ⟨_, e, heq⟩ | ⟨e, _, _, heq⟩ | ⟨w, _, _, _, heq⟩
  · rw [heq]
  · rw [heq]
    exact h.place id frame b.platform
  · rw [heq]
    exact h.place id frame b.platform

/-- A build asks for the next id, whatever becomes of it. -/
theorem heard_build (h : platform.Hears heard) (context : Value) (plan : WidgetPlan) (r : Rendering) :
    heard (b.build platform context plan r).2.2.platform = heard b.platform ++ [b.counters.widget] := by
  refine BridgeState.build_invariant
    (I := fun b' => heard b'.platform = heard b.platform ++ [b.counters.widget]) ?_ (fun _ _ h => h)
    fun id frame b' hb' => (heard_place h id frame).trans hb'
  rcases b.create_cases platform context r.names plan with
    ⟨e, _, heq⟩ | ⟨size, e, _, _, heq⟩ | ⟨size, _, _, heq⟩
  · rw [heq]
    exact h.create _ _ _
  · rw [heq]
    exact h.create _ _ _
  · rw [heq]
    simp only [BridgeState.afterCreation, BridgeState.bindLogic_platform]
    exact h.create _ _ _

theorem Setting.heard_act [DecidableEq κ] (s : Setting σ η κ) (h : s.platform.Hears heard)
    (a : Action η κ) (c : Chronicle σ η κ) :
    heard (s.act a c).state.platform =
      heard c.state.platform ++ a.asks c.state.counters.widget := by
  cases a with
  | closeScope =>
    simp only [act, Action.asks, List.append_nil]
    split <;> rfl
  | build context plan r => exact heard_build h context plan r
  | put target frame =>
    simp only [act, Action.asks, List.append_nil]
    rcases c.state.put_cases s.platform target frame with ⟨e, heq⟩ | ⟨id, heq⟩
    · rw [heq]
    · rw [heq]
      exact heard_place h id frame
  | setText target text =>
    simp only [act, Action.asks, List.append_nil]
    rcases c.state.setText_cases s.platform target text with heq | ⟨id, heq⟩
    · rw [heq]
    · rw [heq]
      exact h.setText id _ _
  | destroy id =>
    simp only [act, Action.asks, List.append_nil, BridgeState.destroyWidget_platform]
  | read path =>
    simp only [act, Action.asks, List.append_nil]
    exact h.read path _
  | window width height =>
    simp only [act, Action.asks, List.append_nil]
    exact h.window width height _
  | print line =>
    simp only [act, Action.asks, List.append_nil]
    exact h.print line _
  | _ => exact (List.append_nil _).symm

end Hearing

/-! ### Processes -/

/-- The bridges of a process, each with its history; the counters that they share; and the ids that
    were handed to platforms, in order, with the bridges that handed them. -/
structure Process {ι : Type} (σ η κ : ι → Type) where
  bridges : (i : ι) → Chronicle (σ i) (η i) (κ i)
  counters : Counters
  handed : List (ι × WidgetId)

namespace Process

variable {ι : Type} {σ η κ : ι → Type}

/-- A process of new bridges. -/
def initial (platforms : (i : ι) → σ i) (hosts : (i : ι) → η i) : Process σ η κ :=
  ⟨fun i => .initial (platforms i) (hosts i) .first, .first, []⟩

/-- A bridge as it acts: with the counters of the process. -/
def view (p : Process σ η κ) (i : ι) : Chronicle (σ i) (η i) (κ i) :=
  { p.bridges i with state := { (p.bridges i).state with counters := p.counters } }

/-- The number of widget ids that some steps use up together. -/
def allocations : List ((i : ι) × Action (η i) (κ i)) → Nat
  | [] => 0
  | x :: rest => x.2.widgets + allocations rest

variable [DecidableEq ι] [∀ i, DecidableEq (κ i)] (settings : (i : ι) → Setting (σ i) (η i) (κ i))

/-- The ids that one bridge handed to its platform. -/
def handedBy (i : ι) (handed : List (ι × WidgetId)) : List WidgetId :=
  (handed.filter fun x => x.1 = i).map Prod.snd

theorem handedBy_append (i : ι) (first second : List (ι × WidgetId)) :
    handedBy i (first ++ second) = handedBy i first ++ handedBy i second := by
  simp [handedBy]

theorem handedBy_same (i : ι) (ids : List WidgetId) : handedBy i (ids.map (i, ·)) = ids := by
  simp [handedBy, List.filter_map, Function.comp_def]

theorem handedBy_other {i j : ι} (h : i ≠ j) (ids : List WidgetId) :
    handedBy i (ids.map (j, ·)) = [] := by
  simp [handedBy, List.filter_map, Function.comp_def, Ne.symm h]

/-- An action on one of the bridges. -/
def step (x : (i : ι) × Action (η i) (κ i)) (p : Process σ η κ) : Process σ η κ :=
  let c := (settings x.1).act x.2 (p.view x.1)
  { bridges := Function.update p.bridges x.1 c
    counters := c.state.counters
    handed := p.handed ++ (x.2.asks p.counters.widget).map (x.1, ·) }

def run (steps : List ((i : ι) × Action (η i) (κ i))) (p : Process σ η κ) : Process σ η κ :=
  steps.foldl (fun p x => step settings x p) p

theorem view_step_self (i : ι) (a : Action (η i) (κ i)) (p : Process σ η κ) :
    (step settings ⟨i, a⟩ p).view i = (settings i).act a (p.view i) := by
  simp only [view, step, Function.update_self]

/-- What is done to one bridge alone is done to it as if there were no others. -/
theorem view_run_self (i : ι) (actions : List (Action (η i) (κ i))) (p : Process σ η κ) :
    (run settings (actions.map (Sigma.mk i)) p).view i = (settings i).actAll actions (p.view i) := by
  induction actions generalizing p with
  | nil => rfl
  | cons a rest ih =>
    rw [Setting.actAll_cons, ← view_step_self]
    exact ih _

/-! ### The invariant -/

/-- After so many ids: the counter, the records of all bridges, and the ids that were handed out. -/
structure Counted (p : Process σ η κ) (used : Nat) : Prop where
  counter : p.counters.widget.toInt = 1001 + used
  named : ∀ i, (p.bridges i).Named p.counters.widget
  increasing : (p.handed.map Prod.snd).Pairwise (· < ·)
  below : ∀ x ∈ p.handed, x.2 < p.counters.widget

omit [DecidableEq ι] [∀ i, DecidableEq (κ i)] in
theorem counted_initial (platforms : (i : ι) → σ i) (hosts : (i : ι) → η i) :
    (initial platforms hosts : Process σ η κ).Counted 0 where
  counter := rfl
  named i := .initial (platforms i) (hosts i) .first _
  increasing := List.Pairwise.nil
  below _ hx := absurd hx List.not_mem_nil

omit [DecidableEq ι] [∀ i, DecidableEq (κ i)] in
theorem Counted.named_view {p : Process σ η κ} {used : Nat} (h : p.Counted used) (i : ι) :
    (p.view i).Named p.counters.widget :=
  ⟨(h.named i).lists, (h.named i).below⟩

theorem counted_step {p : Process σ η κ} {used : Nat} (h : p.Counted used)
    (x : (i : ι) × Action (η i) (κ i))
    (hroom : 1001 + (used + x.2.widgets : Nat) ≤ Int64.maxValue.toInt) :
    (step settings x p).Counted (used + x.2.widgets) := by
  obtain ⟨i, a⟩ := x
  have hspace : p.counters.widget.toInt + a.widgets ≤ Int64.maxValue.toInt := by
    rw [h.counter, Int.add_assoc]
    exact hroom
  have hcounter : (step settings ⟨i, a⟩ p).counters.widget =
      p.counters.widget + Int64.ofNat a.widgets :=
    ((settings i).allocates_act a (p.view i)).counter
  have hlater : p.counters.widget ≤ (step settings ⟨i, a⟩ p).counters.widget := by
    rw [hcounter]
    exact le_add_ofNat hspace
  have hnew : ∀ id ∈ a.asks p.counters.widget, id = p.counters.widget ∧ a.widgets = 1 := by
    intro id hid
    cases a with
    | build context plan r => exact ⟨List.mem_singleton.mp hid, rfl⟩
    | _ => cases hid
  refine ⟨?_, ?_, ?_, ?_⟩
  · rw [hcounter, toInt_add_ofNat hspace, h.counter]
    exact Int.add_assoc 1001 used a.widgets
  · intro j
    by_cases hj : j = i
    · subst hj
      have hact := (settings j).named_act a (h.named_view j) hspace
      simp only [step, Function.update_self]
      exact hact
    · -- The others only see the counter move on.
      simp only [step, Function.update_of_ne hj]
      exact (h.named j).mono hlater
  · simp only [step, List.map_append, List.map_map]
    refine List.pairwise_append.mpr ⟨h.increasing, ?_, ?_⟩
    · cases a with
      | build context plan r => exact List.pairwise_singleton _ _
      | _ => exact List.Pairwise.nil
    · intro old hold new hnew'
      obtain ⟨x, hx, rfl⟩ := List.mem_map.mp hold
      obtain ⟨id, hid, rfl⟩ := List.mem_map.mp hnew'
      simp only [Function.comp, (hnew id hid).1]
      exact h.below x hx
  · intro x hx
    rcases List.mem_append.mp hx with hx | hx
    · exact Int64.lt_of_lt_of_le (h.below x hx) hlater
    · obtain ⟨id, hid, rfl⟩ := List.mem_map.mp hx
      obtain ⟨rfl, hone⟩ := hnew id hid
      rw [hcounter]
      exact lt_add_ofNat hspace (by omega)

theorem counted_run {p : Process σ η κ} {used : Nat} (h : p.Counted used)
    (steps : List ((i : ι) × Action (η i) (κ i)))
    (hroom : 1001 + (used + allocations steps : Nat) ≤ Int64.maxValue.toInt) :
    (run settings steps p).Counted (used + allocations steps) := by
  induction steps generalizing p used with
  | nil => exact h
  | cons x rest ih =>
    rw [allocations, ← Nat.add_assoc] at hroom ⊢
    exact ih (counted_step settings h x (by omega)) hroom

theorem heard_run {i : ι} {heard : σ i → List WidgetId} (hheard : (settings i).platform.Hears heard)
    (steps : List ((i : ι) × Action (η i) (κ i))) (p : Process σ η κ) {before : List WidgetId}
    (h : heard (p.bridges i).state.platform = before ++ handedBy i p.handed) :
    heard ((run settings steps p).bridges i).state.platform =
      before ++ handedBy i (run settings steps p).handed := by
  induction steps generalizing p with
  | nil => exact h
  | cons x rest ih =>
    refine ih (step settings x p) ?_
    obtain ⟨j, a⟩ := x
    simp only [step, handedBy_append]
    by_cases hj : i = j
    · subst hj
      have hact := (settings i).heard_act hheard a (p.view i)
      rw [Function.update_self, hact, handedBy_same, ← List.append_assoc, ← h]
      rfl
    · rw [Function.update_of_ne hj, handedBy_other hj, List.append_nil, h]

/-! ### Whole runs -/

/-- The bridges of a process after any steps that use up fewer than 2 ^ 63 - 1001 widget ids, so that
    none is taken twice from the counter, which starts at 1001.  Every
    id that was handed to a platform is greater than all handed out before, by whatever bridge, and
    these are the ids that the platforms hear.  Every record has an id before the next one, so that a
    creation is only ever refused by the platform, and a name stands for the last widget created
    under it on the same bridge, whatever became of it since.  Every run of uses of one of the bridges
    is a sequence of further steps. -/
theorem widget_naming (platforms : (i : ι) → σ i) (hosts : (i : ι) → η i)
    (steps : List ((i : ι) × Action (η i) (κ i)))
    (hfew : 1001 + allocations steps ≤ Int64.maxValue.toInt) :
    let p : Process σ η κ := run settings steps (initial platforms hosts)
    (p.handed.map Prod.snd).Pairwise (· < ·) ∧
    (∀ i heard, (settings i).platform.Hears heard →
      heard (p.bridges i).state.platform = heard (platforms i) ++ handedBy i p.handed) ∧
    (∀ i id, ((p.bridges i).state.widgets.find? id).isSome → id < p.counters.widget) ∧
    (∀ i context names plan,
      ((p.view i).state.create (settings i).platform context names plan).1 =
        (((p.view i).state.creationAnswer (settings i).platform plan).mapError
          PlatformError.toBridge).map (p.view i).state.nextHandle) ∧
    (∀ i name, ((Bridge.mk (settings i) (p.view i).state).findWidget name).map WidgetHandle.id =
      (lastNamed? (p.bridges i).created name).map Creation.id) ∧
    (∀ i n running uses, ∃ actions : List (Action (η i) (κ i)),
      ((run settings (actions.map (Sigma.mk i)) p).view i).state =
        (settings i).useAll n running uses (p.view i).state) := by
  intro p
  have hp : p.Counted (0 + allocations steps) :=
    counted_run settings (counted_initial platforms hosts) steps (by omega)
  refine ⟨hp.increasing, ?_, ?_, ?_, ?_, ?_⟩
  · intro i heard hheard
    exact heard_run settings hheard steps (initial platforms hosts) (List.append_nil _).symm
  · intro i id hid
    exact (hp.named i).lt_of_isSome hid
  · intro i context names plan
    exact create_of_above (hp.named_view i).lists (hp.named_view i).above context names plan
  · intro i name
    exact (hp.named_view i).id_findWidget (settings i) name
  · intro i n running uses
    obtain ⟨actions, -, -, hrun⟩ := (settings i).leads_useAll n running uses (p.view i).state
    refine ⟨actions, ?_⟩
    rw [view_run_self]
    exact hrun (p.view i) rfl

/-! ### A run -/

/-- Labels of the same name on two bridges in turn, of which the last is destroyed. -/
def inTurn : List ((_ : Bool) × Action (List (List Value)) EchoClass) :=
  let label : Action (List (List Value)) EchoClass :=
    .build .nil ⟨.label ⟨10, 10⟩ "hello", some "greeting", none⟩ .empty
  [⟨true, label⟩, ⟨false, label⟩, ⟨true, label⟩, ⟨true, .destroy 1003⟩]

/-- Each bridge finds its own last label, destroyed or not. -/
theorem widget_naming_inTurn :
    let p : Process (fun _ : Bool => Recorder) (fun _ => List (List Value)) (fun _ => EchoClass) :=
      run (fun _ => Setting.rehearsal) inTurn
        (initial (fun _ => .standard) fun _ => [])
    1001 + allocations inTurn ≤ Int64.maxValue.toInt ∧
    ((Bridge.mk Setting.rehearsal (p.view true).state).findWidget "greeting").map WidgetHandle.id =
      some 1003 ∧
    ((Bridge.mk Setting.rehearsal (p.view false).state).findWidget "greeting").map WidgetHandle.id =
      some 1002 := by
  intro p
  have hfew : 1001 + allocations inTurn ≤ Int64.maxValue.toInt := by decide
  have hnaming := widget_naming (fun _ : Bool => Setting.rehearsal)
    (fun _ => .standard) (fun _ => []) inTurn hfew
  have hfound := hnaming.2.2.2.2.1
  refine ⟨hfew, (hfound true "greeting").trans ?_, (hfound false "greeting").trans ?_⟩
  · decide +kernel
  · decide +kernel

end Process
end ScriptBridge
