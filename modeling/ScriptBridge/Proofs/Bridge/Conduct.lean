/-
  ScriptBridge/Proofs/Bridge/Conduct.lean
  =======================================
  **Every use of a bridge is a balanced sequence of actions.**

  All uses of a bridge come down to actions, one after the other, and to scopes
  around them.  Where a relation asks nothing of the contexts of widgets, it need
  only be respected by every action and kept by a scope (`Admits.relates`).
  Releases and destructions only come from host methods, so the relation need only
  respect those that are served.  Widgets are only built by renders and one by
  one, so a relation that sees more than a single action need only admit these as
  a whole.  A render in turn only builds in its own context (`Builds.render`).

  `Leads` is such a relation, and `leads_useAll` says that any run of uses leads
  to the state it leaves by actions that close the scopes they open, and that ask
  for no blank logic.  What every action keeps is therefore kept by every run,
  whatever the script, the host and the platform do.
-/
import ScriptBridge.Bridge.Api
import ScriptBridge.Proofs.Bridge.Course

namespace ScriptBridge

variable {σ η κ : Type}

namespace Setting

variable {s : Setting σ η κ}

/-! ### Renders -/

/-- Building any one widget in the context respects the relation. -/
structure Builds (s : Setting σ η κ) (context : Value)
    (R : BridgeState σ η κ → BridgeState σ η κ → Prop) : Prop where
  refl : ∀ b, R b b
  trans : ∀ {b b' b''}, R b b' → R b' b'' → R b b''
  build : ∀ {plan : WidgetPlan}, Runnable plan.logic →
    ∀ r b, R b (b.build s.platform context plan r).2.2

namespace Builds

variable {context : Value} {R : BridgeState σ η κ → BridgeState σ η κ → Prop} (hR : s.Builds context R)

include hR

/-- A build by its outcome. -/
theorem of_build {plan : WidgetPlan} {r r' : Rendering} {b b' : BridgeState σ η κ}
    {result : Except BridgeError WidgetHandle}
    (hbuild : b.build s.platform context plan r = (result, r', b')) (hplan : Runnable plan.logic) :
    R b b' := by
  have hrelated := hR.build hplan r b
  rwa [hbuild] at hrelated

theorem renderChildren (cursor : StackCursor) (children : List Descriptor) (r : Rendering)
    (b : BridgeState σ η κ) (hchildren : ∀ d ∈ children, d.Runs) :
    R b (BridgeState.renderChildren s.platform s.layout context cursor children r b).2.2 := by
  -- Along the walk: a child leads to the state it leaves, and so do the children from there on.
  induction cursor, children, r, b
    using BridgeState.renderChildren.induct s.platform s.layout context fun cursor d r b =>
      d.Runs → R b (BridgeState.renderChild s.platform s.layout context cursor d r b).2.2 with
  | case1 cursor r b kind a handle r' b' hbuild hd =>
    simp only [BridgeState.renderChild, hbuild]
    exact hR.of_build hbuild hd.runnable
  | case2 cursor r b kind a e r' b' hbuild hd =>
    simp only [BridgeState.renderChild, hbuild]
    exact hR.of_build hbuild hd.runnable
  | case3 cursor r b axis name children inner r' b' hinner ih hd =>
    have hchildren := ih hd.children
    rw [hinner] at hchildren
    simp only [BridgeState.renderChild, hinner]
    exact hchildren
  | case4 cursor r b =>
    simp only [BridgeState.renderChildren]
    exact hR.refl b
  | case5 cursor r b d rest cursor' r' b' hchild ihchild ih =>
    have hfirst := ihchild (hchildren d List.mem_cons_self)
    rw [hchild] at hfirst
    simp only [BridgeState.renderChildren, hchild]
    exact hR.trans hfirst (ih fun d hd => hchildren d (List.mem_cons_of_mem _ hd))

theorem buildAlone {plan : WidgetPlan} (hplan : Runnable plan.logic) (b : BridgeState σ η κ) :
    R b (b.buildAlone s.platform context plan).2 := hR.build hplan .empty b

theorem renderTree {d : Descriptor} (hd : d.Runs) (b : BridgeState σ η κ) :
    R b (b.renderTree s.platform s.layout context d).2 := by
  cases d with
  | leaf kind a => exact hR.buildAlone hd.runnable b
  | container axis name children => exact hR.renderChildren _ _ _ b hd.children

theorem render (description : Value) (b : BridgeState σ η κ) :
    R b (b.render s.platform s.layout context description).2 := by
  unfold BridgeState.render
  split
  · exact hR.refl b
  · next hread => exact hR.renderTree (Descriptor.runs_ofValue hread) b

end Builds

/-! ### Relations that ask nothing of contexts -/

variable [DecidableEq κ]

/-- Actions that neither remove anything nor open or close a scope respect the relation, and so does
    a scope around related states. -/
structure Respects (s : Setting σ η κ) (R : BridgeState σ η κ → BridgeState σ η κ → Prop) : Prop where
  refl : ∀ b, R b b
  trans : ∀ {b b' b''}, R b b' → R b' b'' → R b b''
  act : ∀ (a : Action η κ) (b), a.isScoping = false → a.isRemoval = false → a.IsRunnable →
    R b (s.after a b)
  scope : ∀ {b b'}, R b.openScope.2 b' → R b (b'.closeScope b.openScope.1)

/-- The same where widgets are only built as they are in use: by a render as a whole, or alone. -/
structure Admits (s : Setting σ η κ) (R : BridgeState σ η κ → BridgeState σ η κ → Prop) : Prop where
  refl : ∀ b, R b b
  trans : ∀ {b b' b''}, R b b' → R b' b'' → R b b''
  act : ∀ (a : Action η κ) (b), a.isScoping = false → a.isRemoval = false → a.isBuild = false →
    R b (s.after a b)
  render : ∀ context description b, R b (b.render s.platform s.layout context description).2
  buildAlone : ∀ {plan : WidgetPlan}, Runnable plan.logic →
    ∀ context b, R b (b.buildAlone s.platform context plan).2
  scope : ∀ {b b'}, R b.openScope.2 b' → R b (b'.closeScope b.openScope.1)

namespace Respects

variable {R : BridgeState σ η κ → BridgeState σ η κ → Prop} (hR : s.Respects R)

include hR

theorem builds (context : Value) : s.Builds context R where
  refl := hR.refl
  trans := hR.trans
  build {plan} hplan r b := hR.act (.build context plan r) b rfl rfl hplan

theorem admits : s.Admits R where
  refl := hR.refl
  trans := hR.trans
  act a b hscoping hremoval hbuild :=
    hR.act a b hscoping hremoval (Action.isRunnable_of_isBuild_eq_false hbuild)
  render context := (hR.builds context).render
  buildAlone hplan context b := (hR.builds context).buildAlone hplan b
  scope := hR.scope

end Respects

/-! ### Levels -/

/-- A level relates the states around each of its tasks whose removals respect the relation. -/
structure Relates (s : Setting σ η κ) (R : BridgeState σ η κ → BridgeState σ η κ → Prop)
    (n : Nat) : Prop where
  evaluate : ∀ running program bindings b,
    s.RemovesWithin R n running (.evaluate program bindings) b →
    R b ((s.level n).evaluate running program bindings b).2
  invoke : ∀ running handle method args b,
    s.RemovesWithin R n running (.invoke handle method args) b →
    R b ((s.level n).invoke running handle method args b).2

section Anything

variable {R : BridgeState σ η κ → BridgeState σ η κ → Prop}

/-- Any context may be taken for given. -/
theorem Admits.given (hR : s.Admits R) : s.AdmitsGiven (fun _ _ => True) R where
  refl := hR.refl
  trans := hR.trans
  act := hR.act
  render _ description := hR.render _ description _
  buildAlone _ _ hplan := hR.buildAlone hplan _ _
  scope := hR.scope

omit [DecidableEq κ] in
theorem grants_true (handle : ObjectHandle) (method : String) (args : List Value)
    (b : BridgeState σ η κ) : Grants (fun _ _ => True) handle method args b :=
  fun _ _ _ _ _ _ => trivial

omit [DecidableEq κ] in
theorem crosses_true (native : Native) (args : List Data) (b : BridgeState σ η κ) :
    Crosses (fun _ _ => True) native args b := ⟨fun _ _ => grants_true _ _ _ b, fun _ _ => trivial⟩

theorem RemovesWithin.permits {n : Nat} {running : List (ObjectRef κ)} {task : Task η κ}
    {b : BridgeState σ η κ} (hremoves : s.RemovesWithin R n running task b) :
    s.Permits (fun _ _ => True) R n running task b where
  removes := hremoves
  grants handle method args b' _ := grants_true handle method args b'
  crosses native args b' _ := crosses_true native args b'

theorem Relates.given {n : Nat} (hn : s.Relates R n) : s.RelatesGiven (fun _ _ => True) R n where
  evaluate hpermits := hn.evaluate _ _ _ _ hpermits.removes
  invoke _ hpermits := hn.invoke _ _ _ _ _ hpermits.removes

theorem Admits.relates (hR : s.Admits R) (n : Nat) : s.Relates R n where
  evaluate _ _ _ _ hremoves := (hR.given.relates n).evaluate hremoves.permits
  invoke _ _ _ _ _ hremoves := (hR.given.relates n).invoke (grants_true _ _ _ _) hremoves.permits

variable (hR : s.Admits R) {n : Nat} (hn : s.Relates R n) {running : List (ObjectRef κ)}

include hR hn

theorem Relates.call {handle : ObjectHandle} {method : String} {args : List Value}
    {b : BridgeState σ η κ}
    (hremoves : s.RemovesWithin R (n + 1) running (.invoke handle method args) b)
    {o : ObjectRef κ} (hobject : b.handles.find? handle = some o) :
    R b ((s.tableOf o).call method args (s.runMethod (s.level n) running o) b).2 :=
  RelatesGiven.call hR.given hn.given (grants_true _ _ _ _) hremoves.permits hobject

theorem Relates.serveScript {r : ScriptRequest} {b : BridgeState σ η κ}
    (hremoves : ∀ native args handle method rest values, r = .call native args →
      native.methodCall? args = some (handle, method, rest) → Data.unmarshalAll rest = .ok values →
      s.RemovesWithin R (n + 1) running (.invoke handle method values) b) :
    R b (s.serveScript (s.level n) running r b).2 :=
  RelatesGiven.serveScript hR.given hn.given fun native args hr =>
    ⟨crosses_true native args b, fun hcall hargs => (hremoves native args _ _ _ _ hr hcall hargs).permits⟩

theorem Relates.runSource {program : Program} {bindings : List (String × HostValue κ)}
    {b : BridgeState σ η κ}
    (hremoves : s.RemovesWithin R (n + 1) running (.evaluate program bindings) b) {source : String}
    (hdecode : program.decode = .ok source) :
    R b.openScope.2 (s.runSource (s.level n) running source bindings b.openScope.2).2 :=
  RelatesGiven.runSource hR.given hn.given hremoves.permits hdecode

/-- The script of an evaluation has come from its start to each of its calls. -/
theorem Relates.called {program : Program} {bindings : List (String × HostValue κ)}
    {b b₂ : BridgeState σ η κ}
    (hremoves : s.RemovesWithin R (n + 1) running (.evaluate program bindings) b)
    {handle : ObjectHandle} {method : String} {args : List Value}
    (hcalls : s.Calls n running program bindings b handle method args b₂) : R b.openScope.2 b₂ :=
  RelatesGiven.called hR.given hn.given hremoves.permits hcalls

end Anything

/-! ### Uses -/

/-- What an action does to the state does not depend on what was done before. -/
theorem state_act {a : Action η κ} (ha : a.isScoping = false) (c : Chronicle σ η κ) :
    (s.act a c).state = s.after a c.state := by
  cases a with
  | openScope => cases ha
  | closeScope => cases ha
  | _ => rfl

/-- One action that opens and closes no scope leads to the state after it. -/
theorem leads_after (a : Action η κ) (ha : a.isScoping = false) (hrunnable : a.IsRunnable)
    (b : BridgeState σ η κ) : s.Leads b (s.after a b) := by
  refine .act a ha hrunnable fun c hc => ?_
  rw [state_act ha, hc]

theorem respects_leads (s : Setting σ η κ) : s.Respects s.Leads where
  refl := .refl
  trans := .trans
  act a b hscoping _ hrunnable := leads_after a hscoping hrunnable b
  scope := .scope

/-- What all actions but builds respect is respected by the removals in the course of any task. -/
theorem removesWithin_of_after {R : BridgeState σ η κ → BridgeState σ η κ → Prop}
    (hafter : ∀ a : Action η κ, a.isScoping = false → a.isBuild = false → ∀ b, R b (s.after a b))
    (n : Nat) (running : List (ObjectRef κ)) (task : Task η κ) (b : BridgeState σ η κ) :
    s.RemovesWithin R n running task b := by
  intro r b' a _ ha
  cases r with
  | release h =>
    cases ha
    exact hafter (.release h) rfl rfl b'
  | destroy id =>
    cases ha
    exact hafter (.destroy id) rfl rfl b'
  | _ => cases ha

theorem removesWithin_leads (n : Nat) (running : List (ObjectRef κ)) (task : Task η κ)
    (b : BridgeState σ η κ) : s.RemovesWithin s.Leads n running task b := by
  refine removesWithin_of_after (fun a hscoping hbuild => ?_) n running task b
  exact leads_after a hscoping (Action.isRunnable_of_isBuild_eq_false hbuild)

/-- Some sequence of actions, which may leave scopes open, leads from one state to the other. -/
def Reaches (s : Setting σ η κ) (b b' : BridgeState σ η κ) : Prop :=
  ∃ actions, ∀ c : Chronicle σ η κ, c.state = b → (s.actAll actions c).state = b'

theorem Leads.reaches {b b' : BridgeState σ η κ} (h : s.Leads b b') : s.Reaches b b' := by
  obtain ⟨actions, -, -, hrun⟩ := h
  exact ⟨actions, hrun⟩

theorem Reaches.trans {b b' b'' : BridgeState σ η κ} (h : s.Reaches b b') (h' : s.Reaches b' b'') :
    s.Reaches b b'' := by
  obtain ⟨first, hrun⟩ := h
  obtain ⟨second, hrun'⟩ := h'
  refine ⟨first ++ second, fun c hc => ?_⟩
  rw [actAll_append]
  exact hrun' _ (hrun c hc)

/-- The requests in the course of a task are served in states that some history leads to. -/
theorem reaches_of_serves {n : Nat} {running : List (ObjectRef κ)} {task : Task η κ}
    {r : HostRequest η κ} {b b' : BridgeState σ η κ} (h : s.Serves n running task b r b') :
    s.Reaches b b' := by
  have hopen : ∀ b : BridgeState σ η κ, s.Reaches b b.openScope.2 :=
    fun b => ⟨[.openScope], fun c hc => by subst hc; rfl⟩
  have hpermits := (removesWithin_leads (s := s) n running task b).permits
  exact s.respects_leads.admits.given.demanded Leads.reaches Reaches.trans hopen hpermits h

/-- What the owner, a script or a host method can ask of a bridge. -/
inductive Use (η κ : Type) where
  | evaluate (program : Program) (bindings : List (String × HostValue κ))
  | dispatch (id : WidgetId) (event : Value)
  | invoke (handle : ObjectHandle) (method : String) (args : List Value)
  /-- A function that scripts call. -/
  | native (native : Native) (args : List Data)
  | system (method : SystemMethod) (args : Args)
  | render (context description : Value)
  | host (request : HostRequest η κ)
  /-- Adopts an object and pins it. -/
  | hold (o : ObjectRef κ)

/-- The state that a use leaves, when evaluations may nest so deeply and some objects are running. -/
def use (s : Setting σ η κ) (n : Nat) (running : List (ObjectRef κ)) (u : Use η κ)
    (b : BridgeState σ η κ) : BridgeState σ η κ :=
  match u with
  | .evaluate program bindings => ((s.level n).evaluate running program bindings b).2
  | .dispatch id event => (dispatchBy ((s.level n).evaluate running) id event b).2
  | .invoke handle method args => ((s.level n).invoke running handle method args b).2
  | .native native args => (s.callNative (s.level n) running native args b).2
  | .system method args => (b.systemCall s.platform s.layout method args).2
  | .render context description => (b.render s.platform s.layout context description).2
  | .host request => (serveHost (s.level n) running request b).2
  | .hold o => (Bridge.hold ⟨s, b⟩ o).2.state

/-- The state that some uses leave, one after the other. -/
def useAll (s : Setting σ η κ) (n : Nat) (running : List (ObjectRef κ)) (uses : List (Use η κ))
    (b : BridgeState σ η κ) : BridgeState σ η κ :=
  uses.foldl (fun b u => s.use n running u b) b

/-- In the course of the use widgets are only built for given contexts, unless a script asks for them. -/
def Use.Granted (s : Setting σ η κ) (Given : BridgeState σ η κ → Value → Prop) (n : Nat)
    (running : List (ObjectRef κ)) : Use η κ → BridgeState σ η κ → Prop
  | .evaluate program bindings, b => s.GrantsWithin Given n running (.evaluate program bindings) b
  | .dispatch id event, b => s.GrantsWithin Given n running (.request (.dispatch id event)) b
  | .invoke handle method args, b =>
    s.GrantsWithin Given n running (.request (.invoke handle method args)) b
  | .native called args, b =>
    ∀ handle method rest values, called.methodCall? args = some (handle, method, rest) →
      Data.unmarshalAll rest = .ok values →
      s.GrantsWithin Given (n + 1) running (.invoke handle method values) b
  | .system method args, b =>
    method.asksForWidget = true → ∀ context, args.value 0 = .ok context → Given b context
  | .render context _, b => Given b context
  | .host request, b => s.GrantsWithin Given n running (.request request) b
  | .hold _, _ => True

/-- In the course of the use scripts only ask for widgets with given values. -/
def Use.Crosses (s : Setting σ η κ) (Given : BridgeState σ η κ → Value → Prop) (n : Nat)
    (running : List (ObjectRef κ)) : Use η κ → BridgeState σ η κ → Prop
  | .evaluate program bindings, b => s.CrossesWithin Given n running (.evaluate program bindings) b
  | .dispatch id event, b => s.CrossesWithin Given n running (.request (.dispatch id event)) b
  | .invoke handle method args, b =>
    s.CrossesWithin Given n running (.request (.invoke handle method args)) b
  | .native called args, b =>
    Setting.Crosses Given called args b ∧
    ∀ handle method rest values, called.methodCall? args = some (handle, method, rest) →
      Data.unmarshalAll rest = .ok values →
      s.CrossesWithin Given (n + 1) running (.invoke handle method values) b
  | .host request, b => s.CrossesWithin Given n running (.request request) b
  | .system _ _, _ | .render _ _, _ | .hold _, _ => True

/-- A condition that all calls of functions meet is met in the course of every use. -/
theorem Use.crosses_of_forall (s : Setting σ η κ) {Given : BridgeState σ η κ → Value → Prop}
    (hcrosses : ∀ native args b, Setting.Crosses Given native args b) (n : Nat)
    (running : List (ObjectRef κ)) (u : Use η κ) (b : BridgeState σ η κ) :
    u.Crosses s Given n running b := by
  cases u with
  | native called args =>
    exact ⟨hcrosses called args b, fun _ _ _ _ _ _ native args b' _ => hcrosses native args b'⟩
  | system method args => trivial
  | render context description => trivial
  | hold o => trivial
  | _ => exact fun native args b' _ => hcrosses native args b'

/-- What is admitted, and respected by removals, holds between the states around every use in whose
    course widgets are only built for given contexts. -/
theorem AdmitsGiven.use {Given : BridgeState σ η κ → Value → Prop}
    {R : BridgeState σ η κ → BridgeState σ η κ → Prop} (hR : s.AdmitsGiven Given R)
    (hremoves : ∀ n running task b, s.RemovesWithin R n running task b) {n : Nat}
    {running : List (ObjectRef κ)} {u : Use η κ} {b : BridgeState σ η κ}
    (hgranted : u.Granted s Given n running b) (hcrosses : u.Crosses s Given n running b) :
    R b (s.use n running u b) := by
  have hlevel := hR.relates n
  have hpermits : ∀ {n task b}, s.GrantsWithin Given n running task b →
      s.CrossesWithin Given n running task b → s.Permits Given R n running task b :=
    fun hgrants hcrosses => ⟨hremoves _ _ _ _, hgrants, hcrosses⟩
  cases u with
  | evaluate program bindings => exact hlevel.evaluate (hpermits hgranted hcrosses)
  | dispatch id event => exact RelatesGiven.dispatch hR hlevel (hpermits hgranted hcrosses)
  | invoke handle method args => exact RelatesGiven.request hR hlevel (hpermits hgranted hcrosses)
  | native called args =>
    refine RelatesGiven.callNative hR hlevel ⟨hcrosses.1, fun hcall hargs => ?_⟩
    exact hpermits (hgranted _ _ _ _ hcall hargs) (hcrosses.2 _ _ _ _ hcall hargs)
  | system method args => exact hR.systemCall method hgranted
  | render context description => exact hR.render hgranted description
  | host request => exact RelatesGiven.request hR hlevel (hpermits hgranted hcrosses)
  | hold o => exact hR.trans (hR.adopt o b) (hR.retain _ _)

/-- The same without a condition on contexts. -/
theorem Admits.use {R : BridgeState σ η κ → BridgeState σ η κ → Prop} (hR : s.Admits R)
    (hremoves : ∀ n running task b, s.RemovesWithin R n running task b) (n : Nat)
    (running : List (ObjectRef κ)) (u : Use η κ) (b : BridgeState σ η κ) :
    R b (s.use n running u b) := by
  refine hR.given.use hremoves ?_ (u.crosses_of_forall s crosses_true n running b)
  cases u with
  | native called args => exact fun _ _ _ _ _ _ => (hremoves (n + 1) running _ b).permits.grants
  | system method args => exact fun _ _ _ => trivial
  | render context description => trivial
  | hold o => trivial
  | _ => exact (hremoves n running _ b).permits.grants

/-- Every use leads to the state it leaves by a balanced sequence of actions. -/
theorem leads_use (s : Setting σ η κ) (n : Nat) (running : List (ObjectRef κ)) (u : Use η κ)
    (b : BridgeState σ η κ) : s.Leads b (s.use n running u b) :=
  s.respects_leads.admits.use removesWithin_leads n running u b

theorem leads_useAll (s : Setting σ η κ) (n : Nat) (running : List (ObjectRef κ))
    (uses : List (Use η κ)) (b : BridgeState σ η κ) : s.Leads b (s.useAll n running uses b) := by
  induction uses generalizing b with
  | nil => exact .refl b
  | cons u rest ih => exact (s.leads_use n running u b).trans (ih _)

end Setting
end ScriptBridge
