/-
  ScriptBridge/Proofs/Bridge/Recast.lean
  ======================================
  **Operations on a bridge whose programs are put in another form.**

  The programs that a bridge holds are the logics of its bindings.  Nothing looks
  at one before its widget fires, and then only what it decodes to matters.  So
  putting all programs of a bridge in another form (`BridgeState.recast`) can be
  done before an operation or after it: the outcome is the same, and so is the
  state that is left.

  This is shown for one elementary change after the other, for a walk through a
  description by induction along the walk, and for everything that runs scripts
  by induction over the levels.
-/
import ScriptBridge.Proofs.Bridge.Conduct
import ScriptBridge.Proofs.Data.Sorted
import ScriptBridge.Proofs.Descriptor.Shipping
import ScriptBridge.Proofs.Platform.Shift

namespace ScriptBridge

variable {σ η κ : Type} (f : Program → Program)

/-! ### Bindings -/

def CallbackBinding.recast (binding : CallbackBinding) : CallbackBinding :=
  { binding with logic := f binding.logic }

def CallbackRegistry.recast (r : CallbackRegistry) : CallbackRegistry :=
  ⟨r.bindings.map fun e => (e.1, e.2.recast f)⟩

def WidgetPlan.recast (plan : WidgetPlan) : WidgetPlan := { plan with logic := plan.logic.map f }

namespace CallbackRegistry

variable (r : CallbackRegistry)

theorem find?_recast (id : WidgetId) : (r.recast f).find? id = (r.find? id).map (·.recast f) :=
  Assoc.find?_map_snd (fun _ => CallbackBinding.recast f) id r.bindings

theorem register_recast (binding : CallbackBinding) :
    (r.recast f).register (binding.recast f) = (r.register binding).recast f :=
  congrArg CallbackRegistry.mk (Assoc.map_insert (CallbackBinding.recast f) ..).symm

theorem remove_recast (id : WidgetId) : (r.recast f).remove id = (r.remove id).recast f := by
  simp only [remove, recast, Assoc.erase, List.filter_map]
  rfl

theorem shareNames_recast (ids : List WidgetId) (names : NameTable) :
    (r.recast f).shareNames ids names = (r.shareNames ids names).recast f := by
  simp only [shareNames, recast, List.map_map]
  congr 1
  apply List.map_congr_left
  intro e he
  simp only [Function.comp]
  split <;> rfl

end CallbackRegistry

namespace BridgeState

/-- The bridge with its programs in another form. -/
def recast (b : BridgeState σ η κ) : BridgeState σ η κ := { b with callbacks := b.callbacks.recast f }

/-- An outcome whose state has its programs in another form. -/
def recastOutcome {α : Type} (outcome : α × BridgeState σ η κ) : α × BridgeState σ η κ :=
  (outcome.1, outcome.2.recast f)

variable (b : BridgeState σ η κ)

theorem registerBinding_recast (binding : CallbackBinding) :
    (b.recast f).registerBinding (binding.recast f) = (b.registerBinding binding).recast f := by
  have hfind : (b.recast f).callbacks.find? (binding.recast f).widget =
      (b.callbacks.find? binding.widget).map (·.recast f) := b.callbacks.find?_recast f binding.widget
  have hregister : (b.recast f).callbacks.register (binding.recast f) =
      (b.callbacks.register binding).recast f := b.callbacks.register_recast f binding
  simp only [registerBinding, hfind, hregister]
  cases b.callbacks.find? binding.widget with
  | none => rfl
  | some previous => rfl

theorem destroyWidget_recast (id : WidgetId) :
    (b.recast f).destroyWidget id = recastOutcome f (b.destroyWidget id) := by
  have hfind : (b.recast f).callbacks.find? id = (b.callbacks.find? id).map (·.recast f) :=
    b.callbacks.find?_recast f id
  have hremove : (b.recast f).callbacks.remove id = (b.callbacks.remove id).recast f :=
    b.callbacks.remove_recast f id
  have hwidgets : (b.recast f).widgets = b.widgets := rfl
  simp only [destroyWidget, hfind, hremove, hwidgets]
  cases b.widgets.destroy id with
  | error e => rfl
  | ok widgets =>
    cases b.callbacks.find? id with
    | none => rfl
    | some binding => rfl

/-! ### Widgets -/

variable (platform : Platform σ)

theorem bindLogic_recast (context : Value) (names : NameTable) (id : WidgetId) (logic : Option Program) :
    (b.recast f).bindLogic context names id (logic.map f) =
      (b.bindLogic context names id logic).recast f := by
  cases logic with
  | none => rfl
  | some program => exact b.registerBinding_recast f ⟨id, context, program, names⟩

theorem create_recast (context : Value) (names : NameTable) (plan : WidgetPlan) :
    (b.recast f).create platform context names (plan.recast f) =
      recastOutcome f (b.create platform context names plan) := by
  obtain ⟨answer, p, hanswer⟩ : ∃ answer p,
      platform.create b.counters.widget plan.blueprint b.platform = (answer, p) := ⟨_, _, rfl⟩
  simp only [create, freshWidget, recast, WidgetPlan.recast, hanswer]
  cases answer with
  | error e => rfl
  | ok size =>
    simp only
    cases b.widgets.create b.counters.widget plan.blueprint.kind (.of plan.blueprint.origin size)
      plan.name with
    | error e => rfl
    | ok widgets =>
      simp only [recastOutcome, ← bindLogic_recast]
      rfl

theorem place_recast (id : WidgetId) (frame : Frame) :
    (b.recast f).place platform id frame = recastOutcome f (b.place platform id frame) := by
  simp only [place, recast]
  cases b.widgets.find? id with
  | none => rfl
  | some r =>
    by_cases hlive : r.state.isLive = true
    · obtain ⟨answer, p, hanswer⟩ : ∃ answer p, platform.place id frame b.platform = (answer, p) :=
        ⟨_, _, rfl⟩
      simp only [hlive, if_true, hanswer]
      cases answer with
      | error e => rfl
      | ok =>
        simp only
        cases b.widgets.place id frame with
        | error e => rfl
        | ok widgets => rfl
    · simp only [hlive]
      rfl

theorem build_recast (context : Value) (plan : WidgetPlan) (r : Rendering) :
    (b.recast f).build platform context (plan.recast f) r =
      ((b.build platform context plan r).1, recastOutcome f (b.build platform context plan r).2) := by
  simp only [build, create_recast]
  rcases b.create platform context r.names plan with ⟨_ | handle, b'⟩
  · rfl
  · have hadd : r.add (plan.recast f) handle = r.add plan handle := by
      simp only [Rendering.add, WidgetPlan.recast]
      cases plan.logic <;> rfl
    have hshare : ((b'.recast f).shareNames (r.add plan handle)) =
        (b'.shareNames (r.add plan handle)).recast f := by
      have hnames := b'.callbacks.shareNames_recast f (r.add plan handle).bound (r.add plan handle).names
      simp only [shareNames, recast, hnames]
    simp only [recastOutcome, hadd, hshare, place_recast]
    simp only [WidgetPlan.recast]
    rcases (b'.shareNames (r.add plan handle)).place platform handle.id
      (.of plan.blueprint.origin (.clamped handle.width handle.height)) with ⟨_ | _, b''⟩
    · rfl
    · rfl

theorem buildAlone_recast (context : Value) (plan : WidgetPlan) :
    (b.recast f).buildAlone platform context (plan.recast f) =
      recastOutcome f (b.buildAlone platform context plan) := by
  simp only [buildAlone, build_recast]
  rfl

theorem target?_recast (v : Value) : (b.recast f).target? v = b.target? v := by
  cases v <;> rfl

theorem setText_recast (target text : Value) :
    (b.recast f).setText platform target text = (b.setText platform target text).recast f := by
  simp only [setText, target?_recast]
  cases b.target? target with
  | none => rfl
  | some id =>
    have hwidgets : (b.recast f).widgets = b.widgets := rfl
    simp only [hwidgets]
    cases b.widgets.find? id with
    | none => rfl
    | some r =>
      simp only
      split <;> rfl

theorem put_recast (target : Value) (frame : Frame) :
    (b.recast f).put platform target frame = recastOutcome f (b.put platform target frame) := by
  simp only [put, target?_recast]
  cases b.target? target with
  | none => rfl
  | some id => exact b.place_recast f platform id frame

/-! ### Descriptions -/

variable (layout : LayoutConfig)

theorem ofLeaf_recast (kind : WidgetKind) (a : Attributes) (origin : Point) :
    (WidgetPlan.ofLeaf kind a origin).recast f = .ofLeaf kind (a.mapLogic f) origin := rfl

/-- A state among the parts of a walk, with its programs in another form. -/
def recastWalk (walk : StackCursor × Rendering × BridgeState σ η κ) :
    StackCursor × Rendering × BridgeState σ η κ := (walk.1, walk.2.1, walk.2.2.recast f)

theorem renderChildren_recast (context : Value) (cursor : StackCursor) (children : List Descriptor)
    (r : Rendering) (b : BridgeState σ η κ) :
    renderChildren platform layout context cursor (Descriptor.mapLogicAll f children) r (b.recast f) =
      recastWalk f (renderChildren platform layout context cursor children r b) := by
  -- Along the walk: a child first, and the children after it from where it leaves off.
  induction cursor, children, r, b
    using renderChildren.induct platform layout context fun cursor d r b =>
      renderChild platform layout context cursor (d.mapLogic f) r (b.recast f) =
        recastWalk f (renderChild platform layout context cursor d r b) with
  | case1 cursor r b kind a handle r' b' hbuild =>
    simp only [Descriptor.mapLogic, renderChild, ← ofLeaf_recast, build_recast, hbuild]
    rfl
  | case2 cursor r b kind a e r' b' hbuild =>
    simp only [Descriptor.mapLogic, renderChild, ← ofLeaf_recast, build_recast, hbuild]
    rfl
  | case3 cursor r b axis name children inner r' b' hinner ih =>
    rw [hinner] at ih
    simp only [Descriptor.mapLogic, renderChild, hinner, ih]
    rfl
  | case4 cursor r b => rfl
  | case5 cursor r b d rest cursor' r' b' hchild ihchild ih =>
    rw [hchild] at ihchild
    simp only [Descriptor.mapLogicAll, renderChildren, hchild, ihchild, ← ih]
    rfl

theorem renderTree_recast (context : Value) (d : Descriptor) (b : BridgeState σ η κ) :
    (b.recast f).renderTree platform layout context (d.mapLogic f) =
      recastOutcome f (b.renderTree platform layout context d) := by
  cases d with
  | leaf kind a =>
    simp only [Descriptor.mapLogic, renderTree, ← ofLeaf_recast, buildAlone_recast]
    rfl
  | container axis name children =>
    simp only [Descriptor.mapLogic, renderTree, renderChildren_recast]
    rfl

end BridgeState

/-! ### Outcomes that are the same but for the form of programs -/

/-- The results are the same, and so are the states when their programs are put in the form. -/
structure Same {α : Type} (x y : α × BridgeState σ η κ) : Prop where
  result : x.1 = y.1
  state : x.2.recast f = y.2.recast f

namespace Same

variable {f} {α : Type} {b b' : BridgeState σ η κ}

theorem of_eq {x y : α × BridgeState σ η κ}
    (h : BridgeState.recastOutcome f x = BridgeState.recastOutcome f y) : Same f x y :=
  ⟨(Prod.mk.inj h).1, (Prod.mk.inj h).2⟩

theorem of_state (a : α) (h : b.recast f = b'.recast f) : Same f (a, b) (a, b') := ⟨rfl, h⟩

theorem outcomes {x y : α × BridgeState σ η κ} (h : Same f x y) :
    ∃ a b b', x = (a, b) ∧ y = (a, b') ∧ b.recast f = b'.recast f :=
  ⟨x.1, x.2, y.2, rfl, Prod.ext h.result.symm rfl, h.state⟩

/-- An operation that may be done before the change of form or after it. -/
theorem of_recast (op : BridgeState σ η κ → α × BridgeState σ η κ)
    (hop : ∀ b, op (b.recast f) = BridgeState.recastOutcome f (op b)) (h : b.recast f = b'.recast f) :
    Same f (op b) (op b') := by
  apply of_eq
  rw [← hop, ← hop, h]

theorem map {β : Type} {x y : α × BridgeState σ η κ} (h : Same f x y) (g : α → β) :
    Same f (g x.1, x.2) (g y.1, y.2) := ⟨congrArg g h.result, h.state⟩

end Same

/-- A computation whose requests are answered alike ends alike. -/
theorem Interaction.same_run {Request : Type} {Reply : Request → Type} {α : Type} {f}
    {serve : (r : Request) → BridgeState σ η κ → Reply r × BridgeState σ η κ}
    (hserve : ∀ r b b', b.recast f = b'.recast f → Same f (serve r b) (serve r b'))
    (x : Interaction Request Reply α) {b b' : BridgeState σ η κ} (h : b.recast f = b'.recast f) :
    Same f (x.run serve b) (x.run serve b') := by
  induction x generalizing b b' with
  | done a => exact .of_state a h
  | ask r next ih =>
    have hreply := hserve r b b' h
    simp only [Interaction.run]
    rw [← hreply.result]
    exact ih _ hreply.state

namespace Setting

variable {f} (s : Setting σ η κ) {b b' : BridgeState σ η κ}

/-! ### Requests of the system object -/

/-- Two descriptions are rendered alike if they are read as the same one but for the form of programs. -/
theorem same_render (context description description' : Value)
    (hread : (Descriptor.ofValue description).map (fun r => r.1.mapLogic f) =
      (Descriptor.ofValue description').map (fun r => r.1.mapLogic f))
    (h : b.recast f = b'.recast f) :
    Same f (b.render s.platform s.layout context description)
      (b'.render s.platform s.layout context description') := by
  unfold BridgeState.render
  revert hread
  cases Descriptor.ofValue description with
  | error e =>
    cases Descriptor.ofValue description' with
    | error e' =>
      intro hread
      obtain rfl : e = e' := by simpa [Except.map] using hread
      exact .of_state _ h
    | ok read => simp [Except.map]
  | ok read =>
    cases Descriptor.ofValue description' with
    | error e' => simp [Except.map]
    | ok read' =>
      intro hread
      have hform : read.1.mapLogic f = read'.1.mapLogic f := by simpa [Except.map] using hread
      apply Same.of_eq
      simp only [← BridgeState.renderTree_recast, h, hform]

theorem same_buildAlone (context : Value) {plan plan' : WidgetPlan} (hplan : plan.recast f = plan'.recast f)
    (h : b.recast f = b'.recast f) :
    Same f (b.buildAlone s.platform context plan) (b'.buildAlone s.platform context plan') := by
  apply Same.of_eq
  rw [← BridgeState.buildAlone_recast, ← BridgeState.buildAlone_recast, h, hplan]

theorem same_systemResult {α : Type} {x y : Except BridgeError α × BridgeState σ η κ} (h : Same f x y)
    (g : α → Value) : Same f (BridgeState.systemResult g x) (BridgeState.systemResult g y) := by
  obtain ⟨result, b⟩ := x
  obtain ⟨result', b'⟩ := y
  obtain ⟨rfl, hstate⟩ : result = result' ∧ b.recast f = b'.recast f := ⟨h.result, h.state⟩
  cases result with
  | error e => exact .of_state _ hstate
  | ok a => exact .of_state _ hstate

theorem same_systemWidget (kind : WidgetKind) (args : Args) (h : b.recast f = b'.recast f) :
    Same f (b.systemWidget s.platform kind args) (b'.systemWidget s.platform kind args) := by
  unfold BridgeState.systemWidget
  cases widgetArgs kind args with
  | error e => exact .of_state _ h
  | ok asked => exact same_systemResult (s.same_buildAlone asked.1 rfl h) _

theorem same_systemCall (method : SystemMethod) (args : Args) (h : b.recast f = b'.recast f) :
    Same f (b.systemCall s.platform s.layout method args) (b'.systemCall s.platform s.layout method args) := by
  cases method with
  | read =>
    refine .of_recast (fun b => b.systemCall s.platform s.layout .read args) ?_ h
    intro b
    simp only [BridgeState.systemCall]
    cases args.string 0 <;> rfl
  | window =>
    refine .of_recast (fun b => b.systemCall s.platform s.layout .window args) ?_ h
    intro b
    simp only [BridgeState.systemCall]
    cases pointArgs args 0 <;> rfl
  | button => exact s.same_systemWidget .button args h
  | label => exact s.same_systemWidget .label args h
  | input => exact s.same_systemWidget .input args h
  | table => exact s.same_systemWidget .table args h
  | uiSet =>
    refine .of_recast (fun b => b.systemCall s.platform s.layout .uiSet args) ?_ h
    intro b
    simp only [BridgeState.systemCall]
    cases args.value 0 with
    | error e => rfl
    | ok target =>
      cases args.value 1 with
      | error e => rfl
      | ok text => exact congrArg (Prod.mk _) (b.setText_recast f s.platform target text)
  | uiPut =>
    simp only [BridgeState.systemCall]
    cases frameArgs args 1 with
    | error e => exact .of_state _ h
    | ok frame =>
      cases args.value 0 with
      | error e => exact .of_state _ h
      | ok target =>
        exact same_systemResult (.of_recast _ (fun b => b.put_recast f s.platform target frame) h) _
  | ui =>
    simp only [BridgeState.systemCall]
    cases args.value 0 with
    | error e => exact .of_state _ h
    | ok context =>
      cases args.value 1 with
      | error e => exact .of_state _ h
      | ok description => exact same_systemResult (s.same_render context description description rfl h) _
  | log =>
    refine .of_recast (fun b => b.systemCall s.platform s.layout .log args) ?_ h
    intro b
    simp only [BridgeState.systemCall]
    cases args.list 0 <;> rfl

/-! ### Scripts and host methods -/

variable [DecidableEq κ]

theorem same_lower (v : HostValue κ) (h : b.recast f = b'.recast f) :
    Same f (b.lower s.family v) (b'.lower s.family v) := by
  refine .of_recast (fun b => b.lower s.family v) ?_ h
  intro b
  cases v <;> rfl

/-- What runs on a level, runs alike when the programs are in another form; a program may itself be
    another one that decodes to the same. -/
structure Alike (f : Program → Program) (inner : Reentry σ η κ) : Prop where
  evaluate : ∀ running {program program' : Program} bindings (b b' : BridgeState σ η κ),
    program.decode = program'.decode → b.recast f = b'.recast f →
    Same f (inner.evaluate running program bindings b) (inner.evaluate running program' bindings b')
  invoke : ∀ running handle method args (b b' : BridgeState σ η κ), b.recast f = b'.recast f →
    Same f (inner.invoke running handle method args b) (inner.invoke running handle method args b')

section Level

variable (hf : ∀ p : Program, (f p).decode = p.decode) {inner : Reentry σ η κ} (hinner : Alike f inner)
  (running : List (ObjectRef κ))

include hf hinner

omit [DecidableEq κ] in
theorem same_dispatchBy (id : WidgetId) (event : Value) (h : b.recast f = b'.recast f) :
    Same f (dispatchBy (inner.evaluate running) id event b)
      (dispatchBy (inner.evaluate running) id event b') := by
  have hcallbacks : b.callbacks.recast f = b'.callbacks.recast f := congrArg BridgeState.callbacks h
  have hfind : (b.callbacks.find? id).map (·.recast f) = (b'.callbacks.find? id).map (·.recast f) := by
    rw [← CallbackRegistry.find?_recast, ← CallbackRegistry.find?_recast, hcallbacks]
  simp only [dispatchBy, CallbackRegistry.fire]
  revert hfind
  cases b.callbacks.find? id with
  | none =>
    cases b'.callbacks.find? id with
    | none => exact fun _ => .of_state none h
    | some binding' => simp
  | some binding =>
    cases b'.callbacks.find? id with
    | none => simp
    | some binding' =>
      intro hfind
      have hbinding : binding.recast f = binding'.recast f := by simpa using hfind
      obtain ⟨-, hcontext, hlogic, hnames⟩ := CallbackBinding.mk.inj hbinding
      have hdecode : binding.logic.decode = binding'.logic.decode := by
        rw [← hf binding.logic, hlogic, hf]
      have hscope : (dispatchScope binding event : List (String × HostValue κ)) =
          dispatchScope binding' event := by
        simp only [dispatchScope, hcontext, hnames]
      simp only [Option.map_some, hscope]
      exact (hinner.evaluate running (dispatchScope binding' event) b b' hdecode h).map some

omit [DecidableEq κ] in
theorem same_serveHost (r : HostRequest η κ) (b b' : BridgeState σ η κ) (h : b.recast f = b'.recast f) :
    Same f (serveHost inner running r b) (serveHost inner running r b') := by
  cases r with
  | getState =>
    obtain ⟨-, hhost, -⟩ := BridgeState.mk.inj h
    exact ⟨hhost, h⟩
  | setState state => exact .of_recast (fun b => ((), { b with host := state })) (fun _ => rfl) h
  | evaluate program bindings => exact hinner.evaluate running bindings b b' rfl h
  | dispatch id event => exact same_dispatchBy hf hinner running id event h
  | destroy id => exact .of_recast _ (fun b => b.destroyWidget_recast f id) h
  | invoke handle method args => exact hinner.invoke running handle method args b b' h
  | retain handle => exact .of_recast (fun b => b.retain handle) (fun _ => rfl) h
  | release handle => exact .of_recast (fun b => b.release handle) (fun _ => rfl) h

omit hf hinner in
/-- A method of the system object runs like the call that it is. -/
theorem same_runMethod_system {index : Nat} {args args' : Args}
    (hcall : ∀ method, SystemMethod.all[index]? = some method →
      Same f (b.systemCall s.platform s.layout method args) (b'.systemCall s.platform s.layout method args'))
    (h : b.recast f = b'.recast f) :
    Same f (s.runMethod inner running .system index args b)
      (s.runMethod inner running .system index args' b') := by
  simp only [runMethod]
  cases hmethod : SystemMethod.all[index]? with
  | none => exact .of_state _ h
  | some method =>
    obtain ⟨result, c, c', hcalled, hcalled', hstate⟩ := (hcall method hmethod).outcomes
    simp only [hcalled, hcalled']
    cases result with
    | error e => exact .of_state _ hstate
    | ok v => exact .of_state _ hstate

theorem same_runMethod (o : ObjectRef κ) (index : Nat) (args : Args) (h : b.recast f = b'.recast f) :
    Same f (s.runMethod inner running o index args b) (s.runMethod inner running o index args b') := by
  cases o with
  | system => exact s.same_runMethod_system running (fun method _ => s.same_systemCall method args h) h
  | host k number =>
    simp only [runMethod]
    split
    · exact .of_state _ h
    · have hrun := Interaction.same_run (same_serveHost hf hinner (.host k number :: running))
        (s.host.run k number index args) h
      exact hrun.map Completion.toExcept

omit hf hinner in
/-- Two calls are alike if they mean methods that run alike. -/
theorem same_invokeOver_of_select {handle : ObjectHandle} {method : String} {args args' : List Value}
    (hselect : ∀ o, b'.handles.find? handle = some o →
      Outcomes Eq (fun r r' => Same f (s.runMethod inner running o r.1 r.2 b)
          (s.runMethod inner running o r'.1 r'.2 b'))
        ((s.tableOf o).select method args) ((s.tableOf o).select method args'))
    (h : b.recast f = b'.recast f) :
    Same f (s.invokeOver inner running handle method args b)
      (s.invokeOver inner running handle method args' b') := by
  obtain ⟨-, -, hhandles, -⟩ := BridgeState.mk.inj h
  simp only [invokeOver, hhandles]
  cases hfound : b'.handles.find? handle with
  | none => exact .of_state _ h
  | some o =>
    have hmethods := hselect o hfound
    revert hmethods
    simp only [MethodTable.call]
    generalize (s.tableOf o).select method args = selected
    generalize (s.tableOf o).select method args' = selected'
    rintro (hsame | rfl)
    · obtain ⟨result, c, c', hrun, hrun', hstate⟩ := hsame.outcomes
      simp only [hrun, hrun']
      cases result with
      | error e => exact .of_state _ hstate
      | ok v => exact (s.same_lower v hstate).map Except.ok
    · exact .of_state _ h

theorem same_invokeOver (handle : ObjectHandle) (method : String) (args : List Value)
    (h : b.recast f = b'.recast f) :
    Same f (s.invokeOver inner running handle method args b)
      (s.invokeOver inner running handle method args b') := by
  refine s.same_invokeOver_of_select running (fun o _ => ?_) h
  cases (s.tableOf o).select method args with
  | error e => exact .error rfl
  | ok selected => exact .ok (s.same_runMethod hf hinner running o selected.1 selected.2 h)

theorem same_invokeScript (handle : ObjectHandle) (method : String) (args : List Data)
    (h : b.recast f = b'.recast f) :
    Same f (s.invokeScript inner running handle method args b)
      (s.invokeScript inner running handle method args b') := by
  simp only [invokeScript]
  cases Data.unmarshalAll args with
  | error e => exact .of_state _ h
  | ok values => exact (s.same_invokeOver hf hinner running handle method values h).map reply

omit hf hinner in
theorem readField_eq (handle : ObjectHandle) (field : String) (h : b.recast f = b'.recast f) :
    s.readField running handle field b = s.readField running handle field b' := by
  obtain ⟨-, hhost, hhandles, -⟩ := BridgeState.mk.inj h
  simp only [readField, hhost, hhandles]

theorem same_callNative (native : Native) (args : List Data) (h : b.recast f = b'.recast f) :
    Same f (s.callNative inner running native args b) (s.callNative inner running native args b') := by
  fun_cases callNative s inner running native args b with
  | case1 name handle rest => exact s.same_invokeScript hf hinner running handle name rest h
  | case2 handle name rest => exact s.same_invokeScript hf hinner running handle name rest h
  | case3 name handle =>
    rw [s.readField_eq running handle name h]
    exact .of_state _ h
  | case4 handle known c hretain =>
    have hboth := Same.of_recast (fun b => b.retain handle) (fun _ => rfl) h
    simp only [hretain] at hboth
    exact hboth.map fun known => Except.ok (Data.bool known)
  | case5 handle => exact .of_state _ h
  | case6 context description context' description' hdescription hcontext output c hrender =>
    have hboth := s.same_render context' description' description' rfl h
    simp only [hrender] at hboth
    simp only [callNative, hcontext, hdescription]
    exact hboth.map fun output => reply (output.map RenderOutput.toValue)
  | case7 context description e hcontext =>
    simp only [callNative, hcontext]
    exact .of_state _ h
  | case8 context description e hdescription hcontext =>
    cases hcontext' : context.unmarshal with
    | error e' => exact (hcontext e' hcontext').elim
    | ok context' =>
      simp only [callNative, hcontext', hdescription]
      exact .of_state _ h
  | case9 target text target' text' htext htarget =>
    simp only [callNative, htext, htarget]
    refine .of_recast (fun b => (Except.ok Data.unit, b.setText s.platform target' text')) ?_ h
    exact fun b => congrArg (Prod.mk _) (b.setText_recast f s.platform target' text')
  | case10 target text e htarget =>
    simp only [callNative, htarget]
    exact .of_state _ h
  | case11 target text e htext htarget =>
    cases htarget' : target.unmarshal with
    | error e' => exact (htarget e' htarget').elim
    | ok target' =>
      simp only [callNative, htarget', htext]
      exact .of_state _ h
  | case12 =>
    rw [callNative]
    · exact .of_state _ h
    all_goals assumption

theorem same_serveScript (r : ScriptRequest) (b b' : BridgeState σ η κ) (h : b.recast f = b'.recast f) :
    Same f (s.serveScript inner running r b) (s.serveScript inner running r b') := by
  cases r with
  | call native args => exact s.same_callNative hf hinner running native args h
  | print line =>
    exact .of_recast (fun b => s.serveScript inner running (.print line) b) (fun _ => rfl) h

omit hf hinner in
theorem same_bindScope (bindings : List (String × HostValue κ)) (h : b.recast f = b'.recast f) :
    Same f (s.bindScope bindings b) (s.bindScope bindings b') := by
  induction bindings generalizing b b' with
  | nil => exact .of_state _ h
  | cons e rest ih =>
    obtain ⟨name, v⟩ := e
    obtain ⟨lowered, c, c', hlower, hlower', hstate⟩ := (s.same_lower v h).outcomes
    simp only [bindScope, hlower, hlower']
    cases lowered.marshal with
    | error e => exact .of_state _ hstate
    | ok d =>
      obtain ⟨scope, c₁, c₁', hrest, hrest', hstate₁⟩ := (ih hstate).outcomes
      simp only [hrest, hrest']
      cases scope with
      | none => exact .of_state _ hstate₁
      | some scope => exact .of_state _ hstate₁

theorem same_runSource (source : String) (bindings : List (String × HostValue κ))
    (h : b.recast f = b'.recast f) :
    Same f (s.runSource inner running source bindings b) (s.runSource inner running source bindings b') := by
  obtain ⟨scope, c, c', hscope, hscope', hstate⟩ := (s.same_bindScope (bindings ++ s.fixedBindings) h).outcomes
  obtain ⟨-, -, -, hclasses, -⟩ := BridgeState.mk.inj hstate
  simp only [runSource, hscope, hscope']
  cases scope with
  | none => exact .of_state _ hstate
  | some scope =>
    simp only [hclasses]
    cases s.engine.start ⟨c'.classes.all⟩ scope source with
    | none => exact .of_state _ hstate
    | some script =>
      have hrun := Interaction.same_run (s.same_serveScript hf hinner running) script hstate
      exact hrun.map fun completed => if completed then Status.ok else .runtimeError

theorem same_evaluateOver {program program' : Program} (bindings : List (String × HostValue κ))
    (hdecode : program.decode = program'.decode) (h : b.recast f = b'.recast f) :
    Same f (s.evaluateOver inner running program bindings b)
      (s.evaluateOver inner running program' bindings b') := by
  simp only [evaluateOver, hdecode]
  cases program'.decode with
  | error e => exact .of_state _ h
  | ok source =>
    have hopen := Same.of_recast (fun b => b.openScope) (fun _ => rfl) h
    obtain ⟨token, c, c', hopened, hopened', hstate⟩ := hopen.outcomes
    simp only [hopened, hopened']
    obtain ⟨status, c₁, c₁', hrun, hrun', hstate₁⟩ :=
      (s.same_runSource hf hinner running source bindings hstate).outcomes
    simp only [hrun, hrun']
    exact .of_recast (fun b => (status, b.closeScope token)) (fun _ => rfl) hstate₁

end Level

omit [DecidableEq κ] in
theorem alike_exhausted (f : Program → Program) :
    Alike f (exhausted : Reentry σ η κ) where
  evaluate running {program program'} bindings b b' hdecode h := by
    simp only [exhausted, hdecode]
    cases program'.decode with
    | error e => exact .of_state _ h
    | ok source => exact .of_state _ h
  invoke _ _ _ _ _ _ h := .of_state _ h

/-- Every level runs alike. -/
theorem alike_level (hf : ∀ p : Program, (f p).decode = p.decode) (n : Nat) : Alike f (s.level n) := by
  induction n with
  | zero => exact alike_exhausted f
  | succ n ih =>
    exact
      { evaluate := fun running _ _ bindings _ _ hdecode h =>
          s.same_evaluateOver hf ih running bindings hdecode h
        invoke := fun running handle method args _ _ h =>
          s.same_invokeOver hf ih running handle method args h }

/-! ### Uses and their answers -/

/-- What the answer to a use can be. -/
inductive Answer (η κ : Type) where
  | status (status : Status)
  | fired (status : Option Status)
  | value (result : Except BridgeError Value)
  | data (result : Except Data Data)
  | system (result : Except HostError Value)
  | rendered (result : Except BridgeError RenderOutput)
  | host (request : HostRequest η κ) (reply : request.Reply)
  | handle (handle : ObjectHandle)

/-- A use of the bridge with its answer, when evaluations may nest so deeply and some objects are
    running. -/
def perform (s : Setting σ η κ) (n : Nat) (running : List (ObjectRef κ)) (u : Use η κ)
    (b : BridgeState σ η κ) : Answer η κ × BridgeState σ η κ :=
  match u with
  | .evaluate program bindings => ((s.level n).evaluate running program bindings b).map Answer.status id
  | .dispatch widget event =>
    (dispatchBy ((s.level n).evaluate running) widget event b).map Answer.fired id
  | .invoke handle method args => ((s.level n).invoke running handle method args b).map Answer.value id
  | .native native args => (s.callNative (s.level n) running native args b).map Answer.data id
  | .system method args => (b.systemCall s.platform s.layout method args).map Answer.system id
  | .render context description =>
    (b.render s.platform s.layout context description).map Answer.rendered id
  | .host request => (serveHost (s.level n) running request b).map (Answer.host request) id
  | .hold o => (.handle (Bridge.hold ⟨s, b⟩ o).1, (Bridge.hold ⟨s, b⟩ o).2.state)

theorem perform_snd (s : Setting σ η κ) (n : Nat) (running : List (ObjectRef κ)) (u : Use η κ)
    (b : BridgeState σ η κ) : (s.perform n running u b).2 = s.use n running u b := by
  cases u <;> rfl

/-- The answers to some uses, one after the other. -/
def answers (s : Setting σ η κ) (n : Nat) (running : List (ObjectRef κ)) :
    List (Use η κ) → BridgeState σ η κ → List (Answer η κ)
  | [], _ => []
  | u :: rest, b => (s.perform n running u b).1 :: s.answers n running rest (s.use n running u b)

section
variable (hf : ∀ p : Program, (f p).decode = p.decode) (n : Nat) (running : List (ObjectRef κ))

include hf

theorem same_perform (u : Use η κ) (h : b.recast f = b'.recast f) :
    Same f (s.perform n running u b) (s.perform n running u b') := by
  have hlevel := s.alike_level hf n
  cases u with
  | evaluate program bindings => exact (hlevel.evaluate running bindings b b' rfl h).map Answer.status
  | dispatch widget event =>
    exact (same_dispatchBy hf hlevel running widget event h).map Answer.fired
  | invoke handle method args => exact (hlevel.invoke running handle method args b b' h).map Answer.value
  | native native args => exact (s.same_callNative hf hlevel running native args h).map Answer.data
  | system method args => exact (s.same_systemCall method args h).map Answer.system
  | render context description => exact (s.same_render context description description rfl h).map Answer.rendered
  | host request => exact (same_serveHost hf hlevel running request b b' h).map (Answer.host request)
  | hold o => exact .of_recast (s.perform n running (.hold o)) (fun _ => rfl) h

/-- No use tells the two states apart, and so none does after any others. -/
theorem answers_eq (uses : List (Use η κ)) (h : b.recast f = b'.recast f) :
    s.answers n running uses b = s.answers n running uses b' := by
  induction uses generalizing b b' with
  | nil => rfl
  | cons u rest ih =>
    have hfirst := s.same_perform hf n running u h
    have hstate := hfirst.state
    rw [perform_snd, perform_snd] at hstate
    simp only [answers, hfirst.result, ih hstate]

end

end Setting
end ScriptBridge
