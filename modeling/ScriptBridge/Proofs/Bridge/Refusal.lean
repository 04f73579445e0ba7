/-
  ScriptBridge/Proofs/Bridge/Refusal.lean
  =======================================
  **What a failed request for a widget leaves behind.**

  A request can fail at its arguments, at the description, at the creation or at
  the placement.  Up to the creation nothing is stored, and such a failure uses
  up at most one id.  The logic of a widget is bound before the widget is placed,
  and nothing is taken back: a widget that the platform created and then refused
  to place stays, with its record, its name, its binding and the pins of that
  binding, although the caller is told of an error.

  Which of the two a failure was depends on the widget that the request asks for
  and on the platform's two answers to it.  `failed_request` states it for every
  way in which the owner of a bridge, a host method or a script can ask.
-/
import ScriptBridge.Proofs.Bridge.Build
import ScriptBridge.Proofs.Bridge.Conduct
import ScriptBridge.Proofs.Callback.Mentions
import ScriptBridge.Proofs.Script.Marshal
import ScriptBridge.Rehearsal.Platform

namespace ScriptBridge

namespace CallbackRegistry

/-- Sharing names with no widget changes no binding. -/
theorem renamed_nil (names : NameTable) (id : WidgetId) : renamed [] names id = fun b => b := rfl

end CallbackRegistry

/-! ### What is asked for -/

/-- The widget that a render asks for, with its context.  A container asks for no single widget, and
    a description that cannot be read for none at all. -/
def askedByRender (layout : LayoutConfig) (context description : Value) : Option (Value × WidgetPlan) :=
  match Descriptor.ofValue description with
  | .ok (.leaf kind a, _) => some (context, .ofLeaf kind a layout.rootOrigin)
  | _ => none

namespace SystemMethod

/-- The widget that the method asks for with some arguments. -/
def asked (layout : LayoutConfig) (args : Args) : SystemMethod → Option (Value × WidgetPlan)
  | .button => (widgetArgs .button args).toOption
  | .label => (widgetArgs .label args).toOption
  | .input => (widgetArgs .input args).toOption
  | .table => (widgetArgs .table args).toOption
  | .ui =>
    match args.value 0, args.value 1 with
    | .ok context, .ok description => askedByRender layout context description
    | _, _ => none
  | _ => none

/-- The widget that a call of the method asks for. -/
def askedBy (layout : LayoutConfig) (method : SystemMethod) (values : List Value) :
    Option (Value × WidgetPlan) :=
  match systemTable.select method.declaration.name values with
  | .ok (_, args) => method.asked layout args
  | .error _ => none

/-- The widget that a script asks for by a call of the method. -/
def askedByScript (layout : LayoutConfig) (method : SystemMethod) (args : List Data) :
    Option (Value × WidgetPlan) :=
  match Data.unmarshalAll args with
  | .ok values => method.askedBy layout values
  | .error _ => none

end SystemMethod

/-- The widget that a script asks for by the function `ui`. -/
def askedByUi (layout : LayoutConfig) (context description : Data) : Option (Value × WidgetPlan) :=
  match context.unmarshal, description.unmarshal with
  | .ok context, .ok description => askedByRender layout context description
  | _, _ => none

namespace BridgeState

variable {σ η κ : Type} {platform : Platform σ} {b b' : BridgeState σ η κ}

/-! ### The two ways to fail -/

/-- Nothing changed but the platform's own state and the next widget id. -/
structure Untouched (b b' : BridgeState σ η κ) : Prop where
  widgets : b'.widgets = b.widgets
  callbacks : b'.callbacks = b.callbacks
  handles : b'.handles = b.handles
  host : b'.host = b.host
  classes : b'.classes = b.classes
  handle : b'.counters.handle = b.counters.handle
  widget : b'.counters.widget = b.counters.widget ∨ b'.counters.widget = b.counters.widget + 1

/-- The platform creates the next widget, under an id without a record, and refuses to place it. -/
structure Stranded (platform : Platform σ) (plan : WidgetPlan) (size : Size)
    (b : BridgeState σ η κ) : Prop where
  accepted : b.creationAnswer platform plan = .ok size
  fresh : b.widgets.stateOf b.counters.widget = .unborn
  refused : ∃ e, (platform.place b.counters.widget (plan.frame (b.nextHandle size))
    (b.afterRequest platform plan).platform).1 = .error e

/-- What was stored for the next widget at its creation is there, and nothing else changed. -/
structure Unplaced (context : Value) (plan : WidgetPlan) (size : Size) (b b' : BridgeState σ η κ) :
    Prop where
  /-- The record says that the widget was created, and carries its name. -/
  widgets : b'.widgets = b.widgets.set b.counters.widget (plan.record size)
  /-- The logic of the widget can be dispatched. -/
  callbacks : ∀ id, b'.callbacks.find? id =
    match plan.logic with
    | some program =>
      if b.counters.widget = id then
        some ⟨id, context, program, NameTable.empty.add plan.name (b.nextHandle size)⟩
      else b.callbacks.find? id
    | none => b.callbacks.find? id
  /-- The binding pins the objects in its context. -/
  handles : b'.handles = (b.bindLogic context .empty b.counters.widget plan.logic).handles
  host : b'.host = b.host
  classes : b'.classes = b.classes
  counters : b'.counters = { b.counters with widget := b.counters.widget + 1 }

/-- What a failed request has done: the widget that it asks for stays if it was stranded, and exactly
    otherwise nothing is touched. -/
structure Failed (platform : Platform σ) (asked : Option (Value × WidgetPlan))
    (b b' : BridgeState σ η κ) : Prop where
  unplaced : ∀ context plan size, asked = some (context, plan) → Stranded platform plan size b →
    Unplaced context plan size b b'
  untouched_iff : b.Untouched b' ↔
    ∀ context plan size, asked = some (context, plan) → ¬ Stranded platform plan size b

theorem Untouched.refl (b : BridgeState σ η κ) : b.Untouched b :=
  ⟨rfl, rfl, rfl, rfl, rfl, rfl, Or.inl rfl⟩

/-- A widget that stays has a record that was not there before. -/
theorem Unplaced.not_untouched {context : Value} {plan : WidgetPlan} {size : Size}
    (h : Unplaced context plan size b b') (hfresh : b.widgets.stateOf b.counters.widget = .unborn) :
    ¬ b.Untouched b' := by
  intro huntouched
  have hset : b.widgets = b.widgets.set b.counters.widget (plan.record size) :=
    huntouched.widgets.symm.trans h.widgets
  have hfind := WidgetTable.find?_set b.widgets b.counters.widget b.counters.widget (plan.record size)
  rw [← hset, if_pos rfl] at hfind
  rw [WidgetTable.stateOf_of_find? hfind] at hfresh
  cases hfresh

namespace Failed

variable {asked : Option (Value × WidgetPlan)}

theorem of_untouched (h : b.Untouched b')
    (hplaced : ∀ context plan size, asked = some (context, plan) → ¬ Stranded platform plan size b) :
    Failed platform asked b b' where
  unplaced context plan size hasked hstranded :=
    absurd hstranded (hplaced context plan size hasked)
  untouched_iff := ⟨fun _ => hplaced, fun _ => h⟩

theorem of_stranded {context : Value} {plan : WidgetPlan} {size : Size}
    (hstranded : Stranded platform plan size b) (h : Unplaced context plan size b b') :
    Failed platform (some (context, plan)) b b' where
  unplaced context' plan' size' hasked hstranded' := by
    cases hasked
    obtain rfl : size = size' := Except.ok.inj (hstranded.accepted.symm.trans hstranded'.accepted)
    exact h
  untouched_iff :=
    ⟨fun huntouched => absurd huntouched (h.not_untouched hstranded.fresh),
      fun hplaced => absurd hstranded (hplaced context plan size rfl)⟩

/-- A request that asks for no widget leaves everything as it is. -/
theorem none (platform : Platform σ) (b : BridgeState σ η κ) : Failed platform none b b :=
  .of_untouched (.refl b) fun _ _ _ h => by cases h

end Failed

theorem untouched_afterRequest (plan : WidgetPlan) : b.Untouched (b.afterRequest platform plan) :=
  ⟨rfl, rfl, rfl, rfl, rfl, rfl, Or.inr rfl⟩

/-! ### One widget -/

/-- The pins of a binding depend on the handles and the bindings alone. -/
theorem bindLogic_handles_congr (context : Value) (names : NameTable) (id : WidgetId)
    (logic : Option Program) (hhandles : b'.handles = b.handles)
    (hcallbacks : b'.callbacks = b.callbacks) :
    (b'.bindLogic context names id logic).handles = (b.bindLogic context names id logic).handles := by
  cases logic with
  | none => exact hhandles
  | some program => simp only [bindLogic, registerBinding_handles, hhandles, hcallbacks]

/-- The bindings after the creation of a widget that shares its names with no other. -/
theorem find?_afterNaming (context : Value) (plan : WidgetPlan) (size : Size) (id : WidgetId) :
    (b.afterNaming platform context plan .empty size).callbacks.find? id =
      match plan.logic with
      | some program =>
        if b.counters.widget = id then
          some ⟨id, context, program, NameTable.empty.add plan.name (b.nextHandle size)⟩
        else b.callbacks.find? id
      | none => b.callbacks.find? id := by
  have hcallbacks : (b.afterRecord platform plan size).callbacks = b.callbacks := rfl
  simp only [afterNaming, shareNames, CallbackRegistry.find?_shareNames, afterCreation,
    bindLogic_callbacks, hcallbacks, Rendering.add, Rendering.empty]
  cases plan.logic with
  | none => simp [CallbackRegistry.renamed_nil]
  | some program =>
    simp only [CallbackRegistry.find?_register]
    by_cases hid : b.counters.widget = id
    · subst hid
      simp [CallbackRegistry.renamed, nextHandle]
    · have hkept : ¬ id = (b.nextHandle size).id := Ne.symm hid
      cases b.callbacks.find? id <;> simp [CallbackRegistry.renamed, hid, hkept]

theorem unplaced_afterNaming {plan : WidgetPlan} {size : Size} (context : Value) (p : σ) :
    Unplaced context plan size b
      { b.afterNaming platform context plan .empty size with platform := p } where
  widgets := afterNaming_widgets ..
  callbacks := find?_afterNaming context plan size
  handles := bindLogic_handles_congr _ _ _ _ rfl rfl
  host := bindLogic_host ..
  classes := bindLogic_classes ..
  counters := bindLogic_counters ..

theorem failed_buildAlone {context : Value} {plan : WidgetPlan} {e : BridgeError}
    (h : (b.buildAlone platform context plan).1 = .error e) :
    Failed platform (some (context, plan)) b (b.buildAlone platform context plan).2 := by
  by_cases hstranded : ∃ size, Stranded platform plan size b
  · obtain ⟨size, hstranded⟩ := hstranded
    obtain ⟨e', hrefused⟩ := hstranded.refused
    refine .of_stranded hstranded ?_
    rcases build_of_accepted hstranded.accepted hstranded.fresh context .empty with
      ⟨_, -, hbuild⟩ | ⟨hplaced, -⟩
    · rw [buildAlone, hbuild]
      exact unplaced_afterNaming context _
    · rw [hrefused] at hplaced
      cases hplaced
  · refine .of_untouched ?_ fun _ _ size hasked hsize => ?_
    · unfold buildAlone at h ⊢
      rcases build_cases platform context plan .empty b with
        ⟨e', hbuild⟩ | ⟨size, e', haccepted, hfresh, hrefused, -⟩ | ⟨size, -, -, -, hbuild⟩
      · rw [hbuild]
        exact untouched_afterRequest plan
      · exact absurd ⟨size, haccepted, hfresh, e', hrefused⟩ hstranded
      · rw [hbuild] at h
        cases h
    · cases hasked
      exact hstranded ⟨size, hsize⟩

/-- A description with a container at its root always renders. -/
theorem failed_render {layout : LayoutConfig} {context description : Value} {e : BridgeError}
    (h : (b.render platform layout context description).1 = .error e) :
    Failed platform (askedByRender layout context description) b
      (b.render platform layout context description).2 := by
  cases hread : Descriptor.ofValue description with
  | error e' =>
    simp only [render, askedByRender, hread]
    exact .none platform b
  | ok parsed =>
    obtain ⟨d, warnings⟩ := parsed
    simp only [render, askedByRender, hread] at h ⊢
    cases d with
    | container axis name children => cases h
    | leaf kind a =>
      simp only [renderTree] at h ⊢
      rcases hbuild : b.buildAlone platform context (.ofLeaf kind a layout.rootOrigin) with
        ⟨result, b''⟩
      rw [hbuild] at h
      cases result with
      | ok handle => cases h
      | error e' =>
        have hfailed := failed_buildAlone (congrArg Prod.fst hbuild)
        rwa [hbuild] at hfailed

/-! ### Methods of the system object -/

section SystemResult

variable {α : Type} {f : α → Value} {outcome : Except BridgeError α × BridgeState σ η κ}
  {asked : Option (Value × WidgetPlan)}

/-- A method fails as its operation did. -/
theorem failed_systemResult
    (houtcome : ∀ e, outcome.1 = .error e → Failed platform asked b outcome.2)
    {e : HostError} (h : (systemResult f outcome).1 = .error e) :
    Failed platform asked b (systemResult f outcome).2 := by
  rcases outcome with ⟨result, b''⟩
  cases result with
  | ok a => cases h
  | error e' => exact houtcome e' rfl

theorem exists_of_systemResult_ok {v : Value} (h : (systemResult f outcome).1 = .ok v) :
    ∃ a, v = f a := by
  rcases outcome with ⟨result, b''⟩
  cases result with
  | ok a =>
    cases h
    exact ⟨a, rfl⟩
  | error e' => cases h

end SystemResult

theorem failed_systemWidget {kind : WidgetKind} {args : Args} {e : HostError}
    (h : (b.systemWidget platform kind args).1 = .error e) :
    Failed platform (widgetArgs kind args).toOption b (b.systemWidget platform kind args).2 := by
  cases hargs : widgetArgs kind args with
  | error e' =>
    simp only [systemWidget, hargs]
    exact .none platform b
  | ok asked =>
    simp only [systemWidget, hargs] at h ⊢
    exact failed_systemResult (fun _ => failed_buildAlone) h

theorem failed_systemCall {layout : LayoutConfig} {method : SystemMethod}
    (hmethod : method.asksForWidget = true) {args : Args} {e : HostError}
    (h : (b.systemCall platform layout method args).1 = .error e) :
    Failed platform (method.asked layout args) b (b.systemCall platform layout method args).2 := by
  cases method with
  | button => exact failed_systemWidget h
  | label => exact failed_systemWidget h
  | input => exact failed_systemWidget h
  | table => exact failed_systemWidget h
  | ui =>
    simp only [systemCall, SystemMethod.asked] at h ⊢
    cases hcontext : args.value 0 with
    | error e' => exact .none platform b
    | ok context =>
      cases hdescription : args.value 1 with
      | error e' => exact .none platform b
      | ok description =>
        rw [hcontext, hdescription] at h
        exact failed_systemResult (fun _ => failed_render) h
  | _ => cases hmethod

theorem depth_toValue (output : RenderOutput) : output.toValue.depth ≤ 2 := by
  cases output with
  | leaf handle =>
    have hhandle : (RenderOutput.leaf handle).toValue.depth = 1 := rfl
    omega
  | names table =>
    have hentries : ∀ entries : List (String × WidgetHandle),
        Value.depthEntries (entries.map fun e => (e.1, e.2.toValue)) ≤ 2 := by
      intro entries
      induction entries with
      | nil => decide
      | cons e rest ih =>
        have hhandle : e.2.toValue.depth = 1 := rfl
        simp only [List.map_cons, Value.depthEntries, hhandle]
        omega
    exact hentries table.entries

/-- A method that asks for a widget answers with its handle or with the names of a render, and
    these can cross into a script. -/
theorem depth_systemCall {layout : LayoutConfig} {method : SystemMethod}
    (hmethod : method.asksForWidget = true) {args : Args} {v : Value}
    (h : (b.systemCall platform layout method args).1 = .ok v) : v.depth ≤ 2 := by
  have hwidget : ∀ kind, (b.systemWidget platform kind args).1 = .ok v → v.depth ≤ 2 := by
    intro kind h
    unfold systemWidget at h
    split at h
    · cases h
    · obtain ⟨handle, rfl⟩ := exists_of_systemResult_ok h
      have hhandle : handle.toTriple.depth = 1 := rfl
      omega
  cases method with
  | button => exact hwidget .button h
  | label => exact hwidget .label h
  | input => exact hwidget .input h
  | table => exact hwidget .table h
  | ui =>
    simp only [systemCall] at h
    split at h
    · obtain ⟨output, rfl⟩ := exists_of_systemResult_ok h
      exact depth_toValue output
    · cases h
    · cases h
  | _ => cases hmethod

end BridgeState

/-! ### Calls -/

namespace Setting

variable {σ η κ : Type} [DecidableEq κ] {s : Setting σ η κ} {inner : Reentry σ η κ}
  {running : List (ObjectRef κ)} {b : BridgeState σ η κ} {method : SystemMethod}

open BridgeState (Failed)

/-- A call of a method of the system object runs the method, if the arguments fit. -/
theorem invokeOver_system (s : Setting σ η κ) (inner : Reentry σ η κ) (running : List (ObjectRef κ))
    {handle : ObjectHandle} (hhandle : b.handles.find? handle = some .system)
    (method : SystemMethod) (values : List Value) :
    s.invokeOver inner running handle method.declaration.name values b =
      match systemTable.select method.declaration.name values with
      | .error e => (.error e, b)
      | .ok (_, args) =>
        match b.systemCall s.platform s.layout method args with
        | (.ok v, b) => (.ok v, b)
        | (.error e, b) => (.error (systemTable.failure method.declaration.name e), b) := by
  have htable : s.tableOf (.system : ObjectRef κ) = systemTable := rfl
  simp only [invokeOver, hhandle, htable, MethodTable.call]
  cases hselect : systemTable.select method.declaration.name values with
  | error e => rfl
  | ok selected =>
    obtain ⟨index, args⟩ := selected
    simp only [runMethod, SystemMethod.eq_of_select hselect]
    rcases b.systemCall s.platform s.layout method args with ⟨_ | _, _⟩ <;> rfl

theorem failed_invokeOver {handle : ObjectHandle}
    (hhandle : b.handles.find? handle = some .system) (hmethod : method.asksForWidget = true)
    {values : List Value} {e : BridgeError}
    (h : (s.invokeOver inner running handle method.declaration.name values b).1 = .error e) :
    Failed s.platform (method.askedBy s.layout values) b
      (s.invokeOver inner running handle method.declaration.name values b).2 := by
  rw [invokeOver_system s inner running hhandle] at h ⊢
  cases hselect : systemTable.select method.declaration.name values with
  | error e' =>
    simp only [SystemMethod.askedBy, hselect]
    exact .none s.platform b
  | ok selected =>
    obtain ⟨index, args⟩ := selected
    simp only [SystemMethod.askedBy, hselect] at h ⊢
    rcases hsystem : b.systemCall s.platform s.layout method args with ⟨result, b'⟩
    rw [hsystem] at h
    cases result with
    | ok v => cases h
    | error e' =>
      have hfailed := BridgeState.failed_systemCall hmethod (congrArg Prod.fst hsystem)
      rwa [hsystem] at hfailed

theorem depth_invokeOver {handle : ObjectHandle}
    (hhandle : b.handles.find? handle = some .system) (hmethod : method.asksForWidget = true)
    {values : List Value} {v : Value}
    (h : (s.invokeOver inner running handle method.declaration.name values b).1 = .ok v) :
    v.depth ≤ 2 := by
  rw [invokeOver_system s inner running hhandle] at h
  split at h
  · cases h
  · next args _ =>
    rcases hsystem : b.systemCall s.platform s.layout method args with ⟨result, b'⟩
    rw [hsystem] at h
    cases result with
    | error e' => cases h
    | ok v' =>
      cases h
      exact BridgeState.depth_systemCall hmethod (congrArg Prod.fst hsystem)

/-- What crosses into a script is refused for its depth alone. -/
theorem reply_of_depth {v : Value} (h : v.depth ≤ 2) : ∃ d, reply (.ok v) = .ok d := by
  have hlimit : 2 ≤ nestingLimit := by decide
  have hcross : v.marshal = .ok v.transcript := Value.marshalAt_of_le 0 v (by omega)
  exact ⟨v.transcript, by simp only [reply, hcross]⟩

theorem failed_invokeScript {handle : ObjectHandle}
    (hhandle : b.handles.find? handle = some .system) (hmethod : method.asksForWidget = true)
    {args : List Data} {e : Data}
    (h : (s.invokeScript inner running handle method.declaration.name args b).1 = .error e) :
    Failed s.platform (method.askedByScript s.layout args) b
      (s.invokeScript inner running handle method.declaration.name args b).2 := by
  cases hargs : Data.unmarshalAll args with
  | error e' =>
    simp only [invokeScript, SystemMethod.askedByScript, hargs]
    exact .none s.platform b
  | ok values =>
    simp only [invokeScript, SystemMethod.askedByScript, hargs] at h ⊢
    cases hresult : (s.invokeOver inner running handle method.declaration.name values b).1 with
    | error e' => exact failed_invokeOver hhandle hmethod hresult
    | ok v =>
      obtain ⟨d, hd⟩ := reply_of_depth (depth_invokeOver hhandle hmethod hresult)
      rw [hresult, hd] at h
      cases h

/-- The calls of scripts that ask for a widget, with what they ask for: a method of the system object,
    called by its name or through `invoke`, and the function `ui`. -/
inductive ScriptAsks (layout : LayoutConfig) (b : BridgeState σ η κ) :
    Native → List Data → Option (Value × WidgetPlan) → Prop where
  | method {handle : ObjectHandle} {method : SystemMethod} (rest : List Data)
      (hhandle : b.handles.find? handle = some .system) (hmethod : method.asksForWidget = true) :
      ScriptAsks layout b (.method method.declaration.name) (.handle handle :: rest)
        (method.askedByScript layout rest)
  | invoke {handle : ObjectHandle} {method : SystemMethod} (rest : List Data)
      (hhandle : b.handles.find? handle = some .system) (hmethod : method.asksForWidget = true) :
      ScriptAsks layout b .invoke [.handle handle, .string method.declaration.name, .array rest]
        (method.askedByScript layout rest)
  | ui (context description : Data) :
      ScriptAsks layout b .ui [context, description] (askedByUi layout context description)

theorem failed_callNative {native : Native} {args : List Data} {asked : Option (Value × WidgetPlan)}
    (hasks : ScriptAsks s.layout b native args asked) {e : Data}
    (h : (s.callNative inner running native args b).1 = .error e) :
    Failed s.platform asked b (s.callNative inner running native args b).2 := by
  cases hasks with
  | method rest hhandle hmethod => exact failed_invokeScript hhandle hmethod h
  | invoke rest hhandle hmethod => exact failed_invokeScript hhandle hmethod h
  | ui context description =>
    simp only [callNative, askedByUi] at h ⊢
    cases hcontext : context.unmarshal with
    | error e' => exact .none s.platform b
    | ok v =>
      cases hdescription : description.unmarshal with
      | error e' => exact .none s.platform b
      | ok w =>
        simp only [hcontext, hdescription] at h ⊢
        cases hresult : (b.render s.platform s.layout v w).1 with
        | error e' => exact BridgeState.failed_render hresult
        | ok output =>
          obtain ⟨d, hd⟩ := reply_of_depth (BridgeState.depth_toValue output)
          have hmap : (b.render s.platform s.layout v w).1.map RenderOutput.toValue =
              .ok output.toValue := by
            rw [hresult]
            rfl
          rw [hmap, hd] at h
          cases h

/-- A request for a widget that fails leaves the widgets with their names, the bindings, the handles
    with their pins, the host and the seen classes as they were, and uses up at most one id; except
    that the widget that it asks for stays as its creation left it, when the platform created it and
    refused to place it. -/
theorem failed_request (s : Setting σ η κ) (inner : Reentry σ η κ) (running : List (ObjectRef κ))
    (b : BridgeState σ η κ) :
    (∀ handle (method : SystemMethod) values e, b.handles.find? handle = some .system →
      method.asksForWidget = true →
      (s.invokeOver inner running handle method.declaration.name values b).1 = .error e →
      Failed s.platform (method.askedBy s.layout values) b
        (s.invokeOver inner running handle method.declaration.name values b).2) ∧
    (∀ native args asked e, ScriptAsks s.layout b native args asked →
      (s.callNative inner running native args b).1 = .error e →
      Failed s.platform asked b (s.callNative inner running native args b).2) := by
  constructor
  · intro handle method values e hhandle hmethod h
    exact failed_invokeOver hhandle hmethod h
  · intro native args asked e hasks h
    exact failed_callNative hasks h

/-! ### A widget that was not placed -/

/-- The rehearsal on a platform that places nothing. -/
def crowded : Setting Recorder (List (List Value)) EchoClass :=
  { rehearsal with
    platform := Rehearsal.PlatformPlan.apply ⟨[("place", "no room")], []⟩ rehearsal.platform }

/-- A bridge with the listening object in reach. -/
def crowdedStart : BridgeState Recorder (List (List Value)) EchoClass :=
  ((BridgeState.initial .standard [] .first).adopt crowded.family echoObject).2

/-- A button with a name and a logic. -/
def greetingButton : Data :=
  .array [.string "button", .map [("logic", .string "log(ctx)"), ("name", .string "greeting")]]

/-- The caller is told of an error, but the widget has a record under its name, its logic is bound,
    and the object in its context is pinned. -/
theorem unplaced_greeting :
    let outcome := crowded.callNative (crowded.level 1) [] .ui [.handle ⟨1⟩, greetingButton] crowdedStart
    (∃ e, outcome.1 = .error e) ∧
    (crowdedStart.widgets.find? 1001 = none ∧
      (outcome.2.widgets.find? 1001).map WidgetRecord.state = some .created) ∧
    (crowdedStart.widgets.findNamed? "greeting" = none ∧
      (outcome.2.widgets.findNamed? "greeting").map Prod.fst = some 1001) ∧
    (crowdedStart.callbacks.find? 1001 = none ∧
      (outcome.2.callbacks.find? 1001).map CallbackBinding.context = some (.object ⟨1⟩)) ∧
    ((crowdedStart.handles.get? ⟨1⟩).map HandleEntry.pins = some 0 ∧
      (outcome.2.handles.get? ⟨1⟩).map HandleEntry.pins = some 1) := by
  refine ⟨⟨_, rfl⟩, ⟨rfl, ?_⟩, ⟨rfl, ?_⟩, ⟨rfl, ?_⟩, rfl, ?_⟩
  · decide +kernel
  · decide +kernel
  · decide +kernel
  · decide +kernel

/-- The button that the greeting asks for. -/
def greetingPlan : WidgetPlan :=
  ⟨.button (.unsized LayoutConfig.standard.rootOrigin) none none, some "greeting",
    some (.source "log(ctx)")⟩

/-- The greeting asks for its button, which is stranded, and the button stays. -/
theorem failed_request_greeting :
    let outcome := crowded.callNative (crowded.level 1) [] .ui [.handle ⟨1⟩, greetingButton] crowdedStart
    ScriptAsks crowded.layout crowdedStart .ui [.handle ⟨1⟩, greetingButton]
      (some (.object ⟨1⟩, greetingPlan)) ∧
    (∃ e, outcome.1 = .error e) ∧
    ∃ size, BridgeState.Stranded crowded.platform greetingPlan size crowdedStart ∧
      BridgeState.Unplaced (.object ⟨1⟩) greetingPlan size crowdedStart outcome.2 := by
  intro outcome
  have hasks : ScriptAsks crowded.layout crowdedStart .ui [.handle ⟨1⟩, greetingButton]
      (some (.object ⟨1⟩, greetingPlan)) := .ui _ _
  obtain ⟨e, he⟩ : ∃ e, outcome.1 = .error e := ⟨_, rfl⟩
  have hstranded : ∃ size, BridgeState.Stranded crowded.platform greetingPlan size crowdedStart :=
    ⟨_, rfl, rfl, _, rfl⟩
  obtain ⟨size, hstranded⟩ := hstranded
  have hfailed := (crowded.failed_request (crowded.level 1) [] crowdedStart).2 _ _ _ e hasks he
  exact ⟨hasks, ⟨e, he⟩, size, hstranded, hfailed.unplaced _ _ size rfl hstranded⟩

end Setting
end ScriptBridge
