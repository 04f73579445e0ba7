/-
  ScriptBridge/Proofs/Bridge/Course.lean
  ======================================
  **What every use of a bridge keeps, as far as its course allows.**

  A script, a host method and the owner of a bridge have many ways to use it, and
  uses nest: an evaluation calls a method, which fires a widget, which evaluates
  again.  All of them come down to elementary changes, one after the other, and to
  scopes around them.  So a relation on states that the elementary changes
  respect, and that a scope around them keeps, holds between the states around
  every use (`AdmitsGiven.relates`), and from the start of a use to what is asked
  for in its course (`AdmitsGiven.demanded`).

  Two kinds of changes are only respected under a condition on the course.
  Releases and destructions come from host methods, and each that is served has
  to respect the relation.  Widgets are built for a context, which has to be
  given in the state that they are asked for in, whether a script asks, a host
  method or the owner.

  The induction is on the level of nesting.  Within one level it is on the tree
  of a script or of a host method.
-/
import ScriptBridge.Proofs.Bridge.Chronicle
import ScriptBridge.Proofs.Bridge.Nesting

namespace ScriptBridge

variable {σ η κ : Type}

/-- The action takes a handle or a widget away. -/
def Action.isRemoval : Action η κ → Bool
  | .release _ | .destroy _ => true
  | _ => false

/-- The action builds a widget. -/
def Action.isBuild : Action η κ → Bool
  | .build _ _ _ => true
  | _ => false

theorem Action.isRunnable_of_isBuild_eq_false {a : Action η κ} (h : a.isBuild = false) :
    a.IsRunnable := by
  cases a with
  | build context plan r => cases h
  | _ => trivial

/-- The removal that a host method asks for. -/
def HostRequest.removal? : HostRequest η κ → Option (Action η κ)
  | .release h => some (.release h)
  | .destroy id => some (.destroy id)
  | _ => none

/-! ### Calls of the system object -/

namespace SystemMethod

/-- The methods that ask the platform for a widget. -/
def asksForWidget : SystemMethod → Bool
  | .button | .label | .input | .table | .ui => true
  | _ => false

/-- A name belongs to one method only. -/
theorem eq_of_name_eq {m m' : SystemMethod} (h : m.declaration.name = m'.declaration.name) :
    m = m' := by
  revert h
  cases m <;> cases m' <;> decide

end SystemMethod

/-- The method that a call means is declared under the called name, and takes the arguments. -/
theorem MethodTable.declared_of_select {t : MethodTable} {method : String} {values : List Value}
    {index : Nat} {args : Args} (h : t.select method values = .ok (index, args)) :
    ∃ m, t.methods[index]? = some m ∧ m.name = method ∧ m.bind values = .ok args := by
  unfold select at h
  split at h
  · cases h
  · next m position hresolve =>
    have hfound := List.find?_some hresolve
    have hmem := List.mem_zipIdx_iff_getElem?.mp (List.mem_of_find?_eq_some hresolve)
    split at h
    · cases h
    · next bound hbind =>
      cases h
      exact ⟨m, hmem, by simp_all, hbind⟩

theorem MethodTable.name_of_select {t : MethodTable} {method : String} {values : List Value}
    {index : Nat} {args : Args} (h : t.select method values = .ok (index, args)) :
    ∃ m, t.methods[index]? = some m ∧ m.name = method := by
  obtain ⟨m, hindex, hname, -⟩ := declared_of_select h
  exact ⟨m, hindex, hname⟩

theorem SystemMethod.bind_of_select {method : SystemMethod} {values : List Value} {index : Nat}
    {args : Args} (h : systemTable.select method.declaration.name values = .ok (index, args)) :
    SystemMethod.all[index]? = some method ∧ method.declaration.bind values = .ok args := by
  obtain ⟨m, hindex, hname, hbind⟩ := MethodTable.declared_of_select h
  rw [systemTable, List.getElem?_map, Option.map_eq_some_iff] at hindex
  obtain ⟨found, hfound, rfl⟩ := hindex
  obtain rfl := SystemMethod.eq_of_name_eq hname
  exact ⟨hfound, hbind⟩

theorem SystemMethod.eq_of_select {method : SystemMethod} {values : List Value} {index : Nat}
    {args : Args} (h : systemTable.select method.declaration.name values = .ok (index, args)) :
    SystemMethod.all[index]? = some method := (bind_of_select h).1

/-- A first parameter of any kind receives the first argument. -/
theorem MethodDecl.head_of_bind {m : MethodDecl} {kinds : List ParamKind} {values : List Value}
    {args : Args} (hparams : m.params = .any :: kinds) (hrest : m.rest = none)
    (hbind : m.bind values = .ok args) :
    ∃ v rest others, values = v :: rest ∧ args = ⟨v :: others⟩ := by
  unfold bind at hbind
  rw [hparams, hrest] at hbind
  cases values with
  | nil => cases hbind
  | cons v rest =>
    simp only [bindParams, ParamKind.coerce] at hbind
    cases hothers : bindParams (0 + 1) kinds rest with
    | error e =>
      rw [hothers] at hbind
      cases hbind
    | ok bound =>
      rw [hothers] at hbind
      cases hbind
      exact ⟨v, rest, bound.1, rfl, rfl⟩

/-- The context of a widget is the first argument of the call, as it was given. -/
theorem SystemMethod.context_mem_of_select {method : SystemMethod} {values : List Value} {index : Nat}
    {args : Args} (h : systemTable.select method.declaration.name values = .ok (index, args))
    (hasks : method.asksForWidget = true) {context : Value} (hcontext : args.value 0 = .ok context) :
    context ∈ values := by
  have hdeclared : ∃ kinds, method.declaration.params = .any :: kinds ∧ method.declaration.rest = none := by
    cases method <;> simp [asksForWidget] at hasks <;> exact ⟨_, rfl, rfl⟩
  obtain ⟨kinds, hparams, hrest⟩ := hdeclared
  obtain ⟨v, rest, others, rfl, rfl⟩ := MethodDecl.head_of_bind hparams hrest (bind_of_select h).2
  cases hcontext
  exact List.mem_cons_self

namespace Setting

variable [DecidableEq κ] {s : Setting σ η κ}

/-- The state after one action. -/
def after (s : Setting σ η κ) (a : Action η κ) (b : BridgeState σ η κ) : BridgeState σ η κ :=
  (s.act a ⟨b, [], [], [], [], []⟩).state

/-- Elementary changes that remove nothing respect the relation, where widgets are only built for
    contexts that are given in the state: by a render as a whole, or alone. -/
structure AdmitsGiven (s : Setting σ η κ) (Given : BridgeState σ η κ → Value → Prop)
    (R : BridgeState σ η κ → BridgeState σ η κ → Prop) : Prop where
  refl : ∀ b, R b b
  trans : ∀ {b b' b''}, R b b' → R b' b'' → R b b''
  act : ∀ (a : Action η κ) (b), a.isScoping = false → a.isRemoval = false → a.isBuild = false →
    R b (s.after a b)
  render : ∀ {context b}, Given b context → ∀ description,
    R b (b.render s.platform s.layout context description).2
  buildAlone : ∀ {context b}, Given b context → ∀ {plan : WidgetPlan}, Runnable plan.logic →
    R b (b.buildAlone s.platform context plan).2
  scope : ∀ {b b'}, R b.openScope.2 b' → R b (b'.closeScope b.openScope.1)

/-- The removals that are served in the course of a task respect the relation. -/
def RemovesWithin (s : Setting σ η κ) (R : BridgeState σ η κ → BridgeState σ η κ → Prop) (n : Nat)
    (running : List (ObjectRef κ)) (task : Task η κ) (b : BridgeState σ η κ) : Prop :=
  ∀ r b' a, s.Serves n running task b r b' → r.removal? = some a → R b' (s.after a b')

/-- If the call asks the system object for a widget, its arguments are given. -/
def Grants (Given : BridgeState σ η κ → Value → Prop) (handle : ObjectHandle) (method : String)
    (args : List Value) (b : BridgeState σ η κ) : Prop :=
  b.handles.find? handle = some .system →
    ∀ m : SystemMethod, m.declaration.name = method → m.asksForWidget = true → ∀ v ∈ args, Given b v

/-- In the course of a task host methods only ask for widgets with given arguments. -/
def GrantsWithin (s : Setting σ η κ) (Given : BridgeState σ η κ → Value → Prop) (n : Nat)
    (running : List (ObjectRef κ)) (task : Task η κ) (b : BridgeState σ η κ) : Prop :=
  ∀ handle method args b', s.Serves n running task b (.invoke handle method args) b' →
    Grants Given handle method args b'

/-- If a script asks for a widget by calling the function, what it hands over is given. -/
structure Crosses (Given : BridgeState σ η κ → Value → Prop) (native : Native) (args : List Data)
    (b : BridgeState σ η κ) : Prop where
  call : ∀ {handle method rest values}, native.methodCall? args = some (handle, method, rest) →
    Data.unmarshalAll rest = .ok values → Grants Given handle method values b
  render : ∀ {context v}, native.context? args = some context → context.unmarshal = .ok v → Given b v

/-- In the course of a task scripts only ask for widgets with given values. -/
def CrossesWithin (s : Setting σ η κ) (Given : BridgeState σ η κ → Value → Prop) (n : Nat)
    (running : List (ObjectRef κ)) (task : Task η κ) (b : BridgeState σ η κ) : Prop :=
  ∀ native args b', s.Demands n running task b (.call native args) b' → Crosses Given native args b'

/-- The conditions on the course of a task. -/
structure Permits (s : Setting σ η κ) (Given : BridgeState σ η κ → Value → Prop)
    (R : BridgeState σ η κ → BridgeState σ η κ → Prop) (n : Nat) (running : List (ObjectRef κ))
    (task : Task η κ) (b : BridgeState σ η κ) : Prop where
  removes : s.RemovesWithin R n running task b
  grants : s.GrantsWithin Given n running task b
  crosses : s.CrossesWithin Given n running task b

/-- What is permitted in the course of a task is so in the course of its parts. -/
theorem Permits.part {Given : BridgeState σ η κ → Value → Prop}
    {R : BridgeState σ η κ → BridgeState σ η κ → Prop} {n n' : Nat}
    {running running' : List (ObjectRef κ)} {task task' : Task η κ} {b b' : BridgeState σ η κ}
    (h : s.Permits Given R n running task b)
    (hpart : ∀ d b'', s.Demands n' running' task' b' d b'' → s.Demands n running task b d b'') :
    s.Permits Given R n' running' task' b' where
  removes r b'' a hserves := h.removes r b'' a (hpart _ b'' hserves)
  grants handle method args b'' hserves := h.grants handle method args b'' (hpart _ b'' hserves)
  crosses native args b'' hcalled := h.crosses native args b'' (hpart _ b'' hcalled)

/-- The conditions on the call of a function: on what it hands over, and on the course of the method
    that it calls. -/
structure PermitsCall (s : Setting σ η κ) (Given : BridgeState σ η κ → Value → Prop)
    (R : BridgeState σ η κ → BridgeState σ η κ → Prop) (n : Nat) (running : List (ObjectRef κ))
    (native : Native) (args : List Data) (b : BridgeState σ η κ) : Prop where
  crosses : Crosses Given native args b
  method : ∀ {handle method rest values}, native.methodCall? args = some (handle, method, rest) →
    Data.unmarshalAll rest = .ok values →
    s.Permits Given R (n + 1) running (.invoke handle method values) b

/-! ### Logic that is not blank -/

theorem runnable_logicOf {v : Value} {logic : Option Program} (h : logicOf v = .ok logic) :
    Runnable logic := by
  unfold logicOf at h
  split at h
  · cases h
    exact runnable_none
  · next hv =>
    cases h
    intro program hprogram
    cases hprogram
    exact Program.Logic.isBlank_of_present hv
  · cases h

/-- A step that ends well had a first part that ended well. -/
theorem of_bind_eq_ok {ε α β : Type} {x : Except ε α} {f : α → Except ε β} {b : β}
    (h : x >>= f = .ok b) : ∃ a, x = .ok a ∧ f a = .ok b := by
  cases x with
  | error e => cases h
  | ok a => exact ⟨a, rfl, h⟩

theorem of_onArgs_eq_ok {α : Type} {x : Except MarshalError α} {a : α} (h : onArgs x = .ok a) :
    x = .ok a := by
  cases x with
  | error e => cases h
  | ok a' => exact congrArg Except.ok (Except.ok.inj h)

/-- A widget method asks for a widget in the context of its first argument, and for no blank logic. -/
theorem asked_of_widgetArgs {kind : WidgetKind} {args : Args} {context : Value} {plan : WidgetPlan}
    (h : widgetArgs kind args = .ok (context, plan)) :
    args.value 0 = .ok context ∧ Runnable plan.logic := by
  cases kind with
  | button =>
    obtain ⟨frame, -, h⟩ := of_bind_eq_ok h
    obtain ⟨text, -, h⟩ := of_bind_eq_ok h
    obtain ⟨image, -, h⟩ := of_bind_eq_ok h
    obtain ⟨given, hgiven, h⟩ := of_bind_eq_ok h
    obtain ⟨v, -, h⟩ := of_bind_eq_ok h
    obtain ⟨logic, hlogic, h⟩ := of_bind_eq_ok h
    cases h
    exact ⟨of_onArgs_eq_ok hgiven, runnable_logicOf hlogic⟩
  | label =>
    obtain ⟨origin, -, h⟩ := of_bind_eq_ok h
    obtain ⟨text, -, h⟩ := of_bind_eq_ok h
    obtain ⟨given, hgiven, h⟩ := of_bind_eq_ok h
    cases h
    exact ⟨of_onArgs_eq_ok hgiven, runnable_none⟩
  | input =>
    obtain ⟨origin, -, h⟩ := of_bind_eq_ok h
    obtain ⟨given, hgiven, h⟩ := of_bind_eq_ok h
    cases h
    exact ⟨of_onArgs_eq_ok hgiven, runnable_none⟩
  | table =>
    obtain ⟨frame, -, h⟩ := of_bind_eq_ok h
    obtain ⟨values, -, h⟩ := of_bind_eq_ok h
    obtain ⟨given, hgiven, h⟩ := of_bind_eq_ok h
    obtain ⟨v, -, h⟩ := of_bind_eq_ok h
    obtain ⟨logic, hlogic, h⟩ := of_bind_eq_ok h
    cases h
    exact ⟨of_onArgs_eq_ok hgiven, runnable_logicOf hlogic⟩

omit [DecidableEq κ] in
theorem systemResult_snd {α : Type} (f : α → Value)
    (outcome : Except BridgeError α × BridgeState σ η κ) :
    (BridgeState.systemResult f outcome).2 = outcome.2 := by
  rcases outcome with ⟨_ | _, _⟩ <;> rfl

namespace AdmitsGiven

variable {Given : BridgeState σ η κ → Value → Prop}
  {R : BridgeState σ η κ → BridgeState σ η κ → Prop} (hR : s.AdmitsGiven Given R)

include hR

/-! ### Elementary uses -/

theorem adopt (o : ObjectRef κ) (b : BridgeState σ η κ) : R b (b.adopt s.family o).2 :=
  hR.act (.adopt o) b rfl rfl rfl

theorem lower (v : HostValue κ) (b : BridgeState σ η κ) : R b (b.lower s.family v).2 := by
  cases v with
  | value v => exact hR.refl b
  | object o => exact hR.adopt o b

theorem retain (h : ObjectHandle) (b : BridgeState σ η κ) : R b (b.retain h).2 :=
  hR.act (.retain h) b rfl rfl rfl

theorem setText (target text : Value) (b : BridgeState σ η κ) :
    R b (b.setText s.platform target text) :=
  hR.act (.setText target text) b rfl rfl rfl

theorem put (target : Value) (frame : Frame) (b : BridgeState σ η κ) :
    R b (b.put s.platform target frame).2 :=
  hR.act (.put target frame) b rfl rfl rfl

theorem print (line : String) (b : BridgeState σ η κ) :
    R b { b with platform := s.platform.print line b.platform } :=
  hR.act (.print line) b rfl rfl rfl

/-! ### Methods of the system object -/

theorem systemWidget (kind : WidgetKind) {args : Args} {b : BridgeState σ η κ}
    (hgiven : ∀ context, args.value 0 = .ok context → Given b context) :
    R b (b.systemWidget s.platform kind args).2 := by
  unfold BridgeState.systemWidget
  split
  · exact hR.refl b
  · next hargs =>
    obtain ⟨hcontext, hlogic⟩ := asked_of_widgetArgs hargs
    rw [systemResult_snd]
    exact hR.buildAlone (hgiven _ hcontext) hlogic

theorem systemCall (method : SystemMethod) {args : Args} {b : BridgeState σ η κ}
    (hgiven : method.asksForWidget = true → ∀ context, args.value 0 = .ok context → Given b context) :
    R b (b.systemCall s.platform s.layout method args).2 := by
  cases method with
  | read =>
    simp only [BridgeState.systemCall]
    split
    · exact hR.refl b
    · next path _ => exact hR.act (.read path) b rfl rfl rfl
  | window =>
    simp only [BridgeState.systemCall]
    split
    · exact hR.refl b
    · next asked _ => exact hR.act (.window asked.x asked.y) b rfl rfl rfl
  | button => exact hR.systemWidget .button (hgiven rfl)
  | label => exact hR.systemWidget .label (hgiven rfl)
  | input => exact hR.systemWidget .input (hgiven rfl)
  | table => exact hR.systemWidget .table (hgiven rfl)
  | uiSet =>
    simp only [BridgeState.systemCall]
    split
    · exact hR.setText _ _ b
    · exact hR.refl b
    · exact hR.refl b
  | uiPut =>
    simp only [BridgeState.systemCall]
    split
    · rw [systemResult_snd]
      exact hR.put _ _ b
    · exact hR.refl b
    · exact hR.refl b
  | ui =>
    simp only [BridgeState.systemCall]
    split
    · next context _ hcontext _ =>
      rw [systemResult_snd]
      exact hR.render (hgiven rfl context hcontext) _
    · exact hR.refl b
    · exact hR.refl b
  | log =>
    simp only [BridgeState.systemCall]
    split
    · exact hR.refl b
    · exact hR.print _ b

theorem bindScope (bindings : List (String × HostValue κ)) (b : BridgeState σ η κ) :
    R b (s.bindScope bindings b).2 := by
  induction bindings generalizing b with
  | nil => exact hR.refl b
  | cons binding rest ih =>
    obtain ⟨name, v⟩ := binding
    have hlower := hR.lower v b
    simp only [Setting.bindScope]
    split
    · exact hlower
    · have hrest := hR.trans hlower (ih (b.lower s.family v).2)
      split
      · next hbound => rwa [hbound] at hrest
      · next hbound => rwa [hbound] at hrest

end AdmitsGiven

/-! ### One level of nesting -/

/-- A level relates the states around each of its tasks whose course is permitted. -/
structure RelatesGiven (s : Setting σ η κ) (Given : BridgeState σ η κ → Value → Prop)
    (R : BridgeState σ η κ → BridgeState σ η κ → Prop) (n : Nat) : Prop where
  evaluate : ∀ {running program bindings b},
    s.Permits Given R n running (.evaluate program bindings) b →
    R b ((s.level n).evaluate running program bindings b).2
  invoke : ∀ {running handle method args b}, Grants Given handle method args b →
    s.Permits Given R n running (.invoke handle method args) b →
    R b ((s.level n).invoke running handle method args b).2

namespace RelatesGiven

variable {Given : BridgeState σ η κ → Value → Prop}
  {R : BridgeState σ η κ → BridgeState σ η κ → Prop} (hR : s.AdmitsGiven Given R) {n : Nat} (hn : s.RelatesGiven Given R n)
  {running : List (ObjectRef κ)}

include hR hn

theorem dispatch {id : WidgetId} {event : Value} {b : BridgeState σ η κ}
    (hpermits : s.Permits Given R n running (.request (.dispatch id event)) b) :
    R b (dispatchBy ((s.level n).evaluate running) id event b).2 := by
  unfold dispatchBy CallbackRegistry.fire
  cases hbound : b.callbacks.find? id with
  | none => exact hR.refl b
  | some binding => exact hn.evaluate (hpermits.part fun d b' h => .dispatch hbound h)

theorem request {r : HostRequest η κ} {b : BridgeState σ η κ}
    (hpermits : s.Permits Given R n running (.request r) b) :
    R b (serveHost (s.level n) running r b).2 := by
  cases r with
  | getState => exact hR.refl b
  | setState h => exact hR.act (.setHost h) b rfl rfl rfl
  | evaluate program bindings => exact hn.evaluate (hpermits.part fun d b' h => .evaluate h)
  | dispatch id event => exact dispatch hR hn hpermits
  | destroy id => exact hpermits.removes (.destroy id) b (.destroy id) (.request _ _ _ b) rfl
  | invoke handle method args =>
    exact hn.invoke (hpermits.grants handle method args b (.request _ _ _ b))
      (hpermits.part fun d b' h => .invoke h)
  | retain h => exact hR.retain h b
  | release h => exact hpermits.removes (.release h) b (.release h) (.request _ _ _ b) rfl

theorem runMethod {handle : ObjectHandle} {method : String} {args : List Value}
    {b : BridgeState σ η κ} (hgrants : Grants Given handle method args b)
    (hpermits : s.Permits Given R (n + 1) running (.invoke handle method args) b)
    {o : ObjectRef κ} (hobject : b.handles.find? handle = some o) {index : Nat} {bound : Args}
    (hselect : (s.tableOf o).select method args = .ok (index, bound)) :
    R b (s.runMethod (s.level n) running o index bound b).2 := by
  cases o with
  | system =>
    simp only [Setting.runMethod]
    split
    · exact hR.refl b
    · next found hfound =>
      have hgiven : found.asksForWidget = true → ∀ context, bound.value 0 = .ok context →
          Given b context := by
        intro hasks context hcontext
        obtain ⟨m, hindex, rfl⟩ := MethodTable.name_of_select hselect
        have hdeclared : systemTable.methods[index]? = some found.declaration := by
          rw [systemTable, List.getElem?_map, hfound, Option.map_some]
        obtain rfl : m = found.declaration := Option.some.inj (hindex.symm.trans hdeclared)
        have hmem := SystemMethod.context_mem_of_select hselect hasks hcontext
        exact hgrants hobject found rfl hasks context hmem
      have hcall := hR.systemCall found hgiven
      split
      · next hresult => rwa [hresult] at hcall
      · next hresult => rwa [hresult] at hcall
  | host k number =>
    simp only [Setting.runMethod]
    split
    · exact hR.refl b
    · next hidle =>
      refine Interaction.relates_run hR.refl hR.trans _ b fun r₁ b₁ hasks => ?_
      refine request hR hn (hpermits.part fun d b' h => ?_)
      exact .method hobject hselect (Bool.eq_false_iff.mpr hidle) hasks h

/-- A call runs the method that its arguments select, if there is one. -/
theorem call {handle : ObjectHandle} {method : String} {args : List Value}
    {b : BridgeState σ η κ} (hgrants : Grants Given handle method args b)
    (hpermits : s.Permits Given R (n + 1) running (.invoke handle method args) b)
    {o : ObjectRef κ} (hobject : b.handles.find? handle = some o) :
    R b ((s.tableOf o).call method args (s.runMethod (s.level n) running o) b).2 := by
  unfold MethodTable.call
  split
  · exact hR.refl b
  · next index bound hselect =>
    have hrun := runMethod hR hn hgrants hpermits hobject hselect
    split
    · next hresult => rwa [hresult] at hrun
    · next hresult => rwa [hresult] at hrun

theorem invokeOver {handle : ObjectHandle} {method : String} {args : List Value}
    {b : BridgeState σ η κ} (hgrants : Grants Given handle method args b)
    (hpermits : s.Permits Given R (n + 1) running (.invoke handle method args) b) :
    R b (s.invokeOver (s.level n) running handle method args b).2 := by
  unfold Setting.invokeOver
  split
  · exact hR.refl b
  · next o hobject =>
    have hcall := call hR hn hgrants hpermits hobject
    split
    · next hresult => rwa [hresult] at hcall
    · next v b' hresult =>
      rw [hresult] at hcall
      exact hR.trans hcall (hR.lower v b')

theorem invokeScript {handle : ObjectHandle} {method : String} {args : List Data}
    {b : BridgeState σ η κ}
    (hgrants : ∀ {values}, Data.unmarshalAll args = .ok values → Grants Given handle method values b)
    (hpermits : ∀ {values}, Data.unmarshalAll args = .ok values →
      s.Permits Given R (n + 1) running (.invoke handle method values) b) :
    R b (s.invokeScript (s.level n) running handle method args b).2 := by
  unfold Setting.invokeScript
  split
  · exact hR.refl b
  · next values hargs => exact invokeOver hR hn (hgrants hargs) (hpermits hargs)

/-- Of the functions of the bridge, only those that call a method reach the host. -/
theorem callNative {native : Native} {args : List Data} {b : BridgeState σ η κ}
    (hpermits : s.PermitsCall Given R n running native args b) :
    R b (s.callNative (s.level n) running native args b).2 := by
  unfold Setting.callNative
  split
  · exact invokeScript hR hn (hpermits.crosses.call rfl) (hpermits.method rfl)
  · exact invokeScript hR hn (hpermits.crosses.call rfl) (hpermits.method rfl)
  · exact hR.refl b
  · exact hR.retain _ b
  · exact hR.refl b
  · split
    · next hcontext _ => exact hR.render (hpermits.crosses.render rfl hcontext) _
    · exact hR.refl b
    · exact hR.refl b
  · split
    · exact hR.setText _ _ b
    · exact hR.refl b
    · exact hR.refl b
  · exact hR.refl b

theorem serveScript {r : ScriptRequest} {b : BridgeState σ η κ}
    (hpermits : ∀ native args, r = .call native args →
      s.PermitsCall Given R n running native args b) :
    R b (s.serveScript (s.level n) running r b).2 := by
  cases r with
  | call native args => exact callNative hR hn (hpermits native args rfl)
  | print line => exact hR.print line b

/-- The requests of the script of an evaluation relate the states around them. -/
theorem asked {program : Program} {bindings : List (String × HostValue κ)}
    {b : BridgeState σ η κ}
    (hpermits : s.Permits Given R (n + 1) running (.evaluate program bindings) b) {source : String}
    (hdecode : program.decode = .ok source) {scope : Scope} {b₁ : BridgeState σ η κ}
    (hbind : s.bindScope (bindings ++ s.fixedBindings) b.openScope.2 = (some scope, b₁))
    {script : Script} (hstart : s.engine.start ⟨b₁.classes.all⟩ scope source = some script)
    {r : ScriptRequest} {b₂ : BridgeState σ η κ}
    (hasks : script.Asks (s.serveScript (s.level n) running) b₁ r b₂) :
    R b₂ (s.serveScript (s.level n) running r b₂).2 := by
  refine serveScript hR hn fun native args hr => ?_
  subst hr
  refine ⟨hpermits.crosses native args b₂ (.call hdecode hbind hstart hasks), fun hcall hargs => ?_⟩
  exact hpermits.part fun d b' h => .script ⟨hdecode, hbind, hstart, hasks, hcall, hargs⟩ h

theorem runSource {program : Program} {bindings : List (String × HostValue κ)}
    {b : BridgeState σ η κ}
    (hpermits : s.Permits Given R (n + 1) running (.evaluate program bindings) b) {source : String}
    (hdecode : program.decode = .ok source) :
    R b.openScope.2 (s.runSource (s.level n) running source bindings b.openScope.2).2 := by
  have hbound := hR.bindScope (bindings ++ s.fixedBindings) b.openScope.2
  unfold Setting.runSource
  split
  · next hbind => rwa [hbind] at hbound
  · next scope b₁ hbind =>
    rw [hbind] at hbound
    split
    · exact hbound
    · next script hstart =>
      refine hR.trans hbound (Interaction.relates_run hR.refl hR.trans script b₁ fun r b₂ hasks => ?_)
      exact asked hR hn hpermits hdecode hbind hstart hasks

/-- The script of an evaluation has come from its start to each of its requests. -/
theorem asking {program : Program} {bindings : List (String × HostValue κ)}
    {b : BridgeState σ η κ}
    (hpermits : s.Permits Given R (n + 1) running (.evaluate program bindings) b) {source : String}
    (hdecode : program.decode = .ok source) {scope : Scope} {b₁ : BridgeState σ η κ}
    (hbind : s.bindScope (bindings ++ s.fixedBindings) b.openScope.2 = (some scope, b₁))
    {script : Script} (hstart : s.engine.start ⟨b₁.classes.all⟩ scope source = some script)
    {r : ScriptRequest} {b₂ : BridgeState σ η κ}
    (hasks : script.Asks (s.serveScript (s.level n) running) b₁ r b₂) : R b.openScope.2 b₂ := by
  have hbound := hR.bindScope (bindings ++ s.fixedBindings) b.openScope.2
  rw [hbind] at hbound
  refine hR.trans hbound (Interaction.relates_asked hR.refl hR.trans hasks fun r b₂ hasks => ?_)
  exact asked hR hn hpermits hdecode hbind hstart hasks

theorem called {program : Program} {bindings : List (String × HostValue κ)}
    {b b₂ : BridgeState σ η κ}
    (hpermits : s.Permits Given R (n + 1) running (.evaluate program bindings) b)
    {handle : ObjectHandle} {method : String} {args : List Value}
    (hcalls : s.Calls n running program bindings b handle method args b₂) : R b.openScope.2 b₂ := by
  obtain ⟨hdecode, hbind, hstart, hasks, -, -⟩ := hcalls
  exact asking hR hn hpermits hdecode hbind hstart hasks

theorem evaluateOver {program : Program} {bindings : List (String × HostValue κ)}
    {b : BridgeState σ η κ}
    (hpermits : s.Permits Given R (n + 1) running (.evaluate program bindings) b) :
    R b (s.evaluateOver (s.level n) running program bindings b).2 := by
  unfold Setting.evaluateOver
  split
  · exact hR.refl b
  · next source hdecode => exact hR.scope (runSource hR hn hpermits hdecode)

end RelatesGiven

/-! ### All levels -/

theorem AdmitsGiven.relates {Given : BridgeState σ η κ → Value → Prop}
    {R : BridgeState σ η κ → BridgeState σ η κ → Prop} (hR : s.AdmitsGiven Given R) (n : Nat) :
    s.RelatesGiven Given R n := by
  induction n with
  | zero =>
    refine ⟨fun {_ program _ b} _ => ?_, fun {_ _ _ _ b} _ _ => hR.refl b⟩
    simp only [level, exhausted]
    split <;> exact hR.refl b
  | succ n ih =>
    exact ⟨fun h => RelatesGiven.evaluateOver hR ih h, fun hg h => RelatesGiven.invokeOver hR ih hg h⟩

/-- What is asked for in the course of a permitted task is asked for in states that come from the start
    by related steps and by opening scopes. -/
theorem AdmitsGiven.demanded {Given : BridgeState σ η κ → Value → Prop}
    {R S : BridgeState σ η κ → BridgeState σ η κ → Prop} (hR : s.AdmitsGiven Given R)
    (hS : ∀ {b b'}, R b b' → S b b') (htrans : ∀ {b b' b''}, S b b' → S b' b'' → S b b'')
    (hopen : ∀ b, S b b.openScope.2) {n : Nat} {running : List (ObjectRef κ)} {task : Task η κ}
    {d : Demand η κ} {b b' : BridgeState σ η κ} (hpermits : s.Permits Given R n running task b)
    (h : s.Demands n running task b d b') : S b b' := by
  induction h with
  | request n running r b => exact hS (hR.refl b)
  | @call n running program bindings source scope script native args b b₁ b₂ hdecode hbind hstart
      hasks =>
    exact htrans (hopen b) (hS (RelatesGiven.asking hR (hR.relates n) hpermits hdecode hbind hstart hasks))
  | evaluate h ih => exact ih (hpermits.part fun d b' h => .evaluate h)
  | dispatch hbound h ih => exact ih (hpermits.part fun d b' h => .dispatch hbound h)
  | invoke h ih => exact ih (hpermits.part fun d b' h => .invoke h)
  | @script n running program bindings handle method args d b b₁ b' hcall h ih =>
    have hcalled : R b.openScope.2 b₁ := RelatesGiven.called hR (hR.relates n) hpermits hcall
    have hrest := ih (hpermits.part fun d b' h => .script hcall h)
    exact htrans (hopen b) (htrans (hS hcalled) hrest)
  | @method n running handle method args k number index bound r d b b₁ b' hobject hselect hidle hasks
      h ih =>
    have hasked : R b b₁ :=
      Interaction.relates_asked hR.refl hR.trans hasks fun r b₁ hasks =>
        RelatesGiven.request hR (hR.relates n)
          (hpermits.part fun d b' h => .method hobject hselect hidle hasks h)
    have hrest := ih (hpermits.part fun d b' h => .method hobject hselect hidle hasks h)
    exact htrans (hS hasked) hrest

end Setting
end ScriptBridge
