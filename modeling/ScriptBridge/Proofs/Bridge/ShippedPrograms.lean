/-
  ScriptBridge/Proofs/Bridge/ShippedPrograms.lean
  ===============================================
  **Programs shipped as octets instead of text.**

  A program can be given to a bridge as a text or as the octets of the text.  An
  evaluation decodes either to the same text, so nothing depends on the form.  A
  widget keeps its logic in the form that it came in, and the form is never seen
  again: the states that the two forms leave are the same but for the form, and
  no later use tells them apart.

  Before that it is decided whether there is a logic at all, and there the forms
  differ.  A text is no logic if it is blank, octets are none only if there are
  none.  So this holds for every text but one of white space alone: its octets
  are bound where the text is not.
-/
import ScriptBridge.Proofs.Bridge.Purpose
import ScriptBridge.Proofs.Bridge.Recast
import ScriptBridge.Proofs.Bridge.Rendered
import ScriptBridge.Proofs.Descriptor.Canonical

namespace ScriptBridge

variable {σ η κ : Type}

/-! ### Arguments -/

namespace Args

variable {i j : Nat} (g : Value → Value) (values : List Value)

theorem value_modify_of_ne (h : i ≠ j) : (Args.mk (values.modify i g)).value j = (Args.mk values).value j := by
  simp [value, h]

theorem value_modify_self (i : Nat) :
    (Args.mk (values.modify i g)).value i = ((Args.mk values).value i).map g := by
  cases h : values[i]? with
  | none => simp [value, h, Except.map]
  | some v => simp [value, h, Except.map]

theorem view_modify_of_ne (h : i ≠ j) {α : Type} (expected : String) (f : Value → Option α) :
    (Args.mk (values.modify i g)).view j expected f = (Args.mk values).view j expected f := by
  simp only [view, value_modify_of_ne g values h]

theorem string?_modify_of_ne (h : i ≠ j) :
    (Args.mk (values.modify i g)).string? j = (Args.mk values).string? j := by
  simp [string?, h]

end Args

namespace MethodDecl

/-- A parameter of any kind receives its argument as it is. -/
theorem bindParams_modify {kinds : List ParamKind} {i : Nat} (hany : kinds[i]? = some .any)
    (g : Value → Value) (index : Nat) (values : List Value) :
    bindParams index kinds (values.modify i g) =
      (bindParams index kinds values).map fun bound => (bound.1.modify i g, bound.2) := by
  induction kinds generalizing i index values with
  | nil => simp at hany
  | cons kind kinds ih =>
    cases values with
    | nil => cases i <;> rfl
    | cons v values =>
      cases i with
      | zero =>
        obtain rfl : kind = .any := by simpa using hany
        simp only [List.modify_zero_cons, bindParams, ParamKind.coerce]
        cases bindParams (index + 1) kinds values <;> rfl
      | succ i =>
        have htail : kinds[i]? = some .any := by simpa using hany
        simp only [List.modify_succ_cons, bindParams, ih htail]
        cases kind.coerce v with
        | error e => rfl
        | ok bound => cases bindParams (index + 1) kinds values <;> rfl

theorem bind_modify {m : MethodDecl} (hrest : m.rest = none) {i : Nat} (hany : m.params[i]? = some .any)
    (g : Value → Value) (values : List Value) :
    m.bind (values.modify i g) = (m.bind values).map fun args => ⟨args.values.modify i g⟩ := by
  simp only [bind, bindParams_modify hany, hrest]
  cases bindParams 0 m.params values <;> rfl

end MethodDecl

/-! ### Methods of the system object -/

/-- The arguments of a method with the chosen logics shipped as octets: the logic of one widget, or
    those in a description. -/
def SystemMethod.shipped (choose : String → Bool) (method : SystemMethod) (values : List Value) :
    List Value :=
  match method with
  | .button => values.modify 5 (Value.logicShipped choose)
  | .table => values.modify 6 (Value.logicShipped choose)
  | .ui => values.modify 1 (Value.shipped choose)
  | _ => values

/-- The method that makes a widget of a kind. -/
def SystemMethod.ofKind : WidgetKind → SystemMethod
  | .button => .button
  | .label => .label
  | .input => .input
  | .table => .table

/-- The same for a method that is called by its name. -/
def shippedCall (choose : String → Bool) (name : String) (values : List Value) : List Value :=
  match SystemMethod.all.find? fun m => m.declaration.name == name with
  | some method => method.shipped choose values
  | none => values

@[simp] theorem shippedCall_name (choose : String → Bool) (method : SystemMethod) (values : List Value) :
    shippedCall choose method.declaration.name values = method.shipped choose values := by
  cases method <;> rfl

theorem SystemMethod.length_shipped (choose : String → Bool) (method : SystemMethod) (values : List Value) :
    (method.shipped choose values).length = values.length := by
  cases method <;> simp [shipped]

theorem SystemMethod.bind_shipped (choose : String → Bool) (method : SystemMethod) (values : List Value) :
    method.declaration.bind (method.shipped choose values) =
      (method.declaration.bind values).map fun args => ⟨method.shipped choose args.values⟩ := by
  have hsame : ∀ x : Except MarshalError Args, x = x.map fun args => ⟨args.values⟩ := by
    intro x
    cases x <;> rfl
  cases method with
  | button => exact MethodDecl.bind_modify rfl rfl _ values
  | table => exact MethodDecl.bind_modify rfl rfl _ values
  | ui => exact MethodDecl.bind_modify rfl rfl _ values
  | _ => exact hsame _

theorem select_shippedCall (choose : String → Bool) (name : String) (values : List Value) :
    systemTable.select name (shippedCall choose name values) =
      (systemTable.select name values).map fun r => (r.1, ⟨shippedCall choose name r.2.values⟩) := by
  by_cases hname : ∃ method : SystemMethod, method.declaration.name = name
  · obtain ⟨method, rfl⟩ := hname
    simp only [shippedCall_name, MethodTable.select, SystemMethod.length_shipped]
    cases hresolve : systemTable.resolve? method.declaration.name values.length with
    | none => rfl
    | some found =>
      obtain ⟨d, index⟩ := found
      obtain rfl := SystemMethod.declaration_of_resolve? hresolve
      simp only [SystemMethod.bind_shipped]
      cases method.declaration.bind values <;> rfl
  · have hother : ∀ values, shippedCall choose name values = values := by
      intro values
      unfold shippedCall
      cases hfound : SystemMethod.all.find? fun m => m.declaration.name == name with
      | none => rfl
      | some method => exact absurd ⟨method, by simpa using List.find?_some hfound⟩ hname
    simp only [hother]
    cases systemTable.select name values <;> rfl

theorem logicOf_text (text : String) :
    logicOf (.string text) = .ok (if Text.isBlank text then none else some (.source text)) := by
  unfold logicOf
  rw [Program.Logic.ofValue_text]
  by_cases hblank : Text.isBlank text = true <;> simp [hblank]

theorem logicOf_octets (text : String) :
    logicOf (.bytes (Utf8.octets text)) =
      .ok (if text = "" then none else some (.bytes (Utf8.octets text))) := by
  unfold logicOf
  rw [Program.Logic.ofValue_octets]
  by_cases hempty : text = "" <;> simp [hempty]

/-- A step that both computations take first. -/
theorem bind_map_eq {ε α β γ : Type} {x : Except ε α} {f : α → Except ε β} {f' : α → Except ε γ} {g : γ → β}
    (h : ∀ a, f a = (f' a).map g) : (x >>= f) = (x >>= f').map g := by
  cases x with
  | error e => rfl
  | ok a => exact h a

section
variable {choose : String → Bool} (hchoose : ∀ text, choose text = true → Program.Steady text)

include hchoose

theorem logicOf_shipped (v : Value) :
    logicOf (v.logicShipped choose) = (logicOf v).map (Option.map (Program.shipped choose)) := by
  unfold logicOf
  rw [Program.Logic.ofValue_shipped hchoose]
  cases Program.Logic.ofValue v <;> rfl

/-- A logic that was shipped is read after everything else, and only the program is another. -/
theorem withLogic_shipped (x : Except MarshalError Value) (context : Value)
    {plan : Option Program → WidgetPlan}
    (hplan : ∀ logic, plan (logic.map (Program.shipped choose)) = (plan logic).recast (Program.shipped choose)) :
    (do
      let v ← onArgs (x.map (Value.logicShipped choose))
      let logic ← logicOf v
      return (context, plan logic)) =
    Except.map (fun r => (r.1, r.2.recast (Program.shipped choose))) (do
      let v ← onArgs x
      let logic ← logicOf v
      return (context, plan logic)) := by
  cases x with
  | error e => rfl
  | ok v =>
    change logicOf (v.logicShipped choose) >>= _ = Except.map _ (logicOf v >>= _)
    rw [logicOf_shipped hchoose]
    cases logicOf v with
    | error e => rfl
    | ok logic => exact congrArg (fun plan => Except.ok (context, plan)) (hplan logic)

/-- The widget that a method asks for is the same one, with its program shipped. -/
theorem widgetArgs_shipped (kind : WidgetKind) (values : List Value) :
    widgetArgs kind ⟨(SystemMethod.ofKind kind).shipped choose values⟩ =
      (widgetArgs kind ⟨values⟩).map fun r => (r.1, r.2.recast (Program.shipped choose)) := by
  cases kind with
  | button =>
    simp (disch := decide) only [widgetArgs, frameArgs, Args.int, SystemMethod.ofKind, SystemMethod.shipped,
      Args.view_modify_of_ne, Args.value_modify_of_ne, Args.string?_modify_of_ne, Args.value_modify_self]
    refine bind_map_eq fun frame => bind_map_eq fun text => bind_map_eq fun image =>
      bind_map_eq fun context => ?_
    exact withLogic_shipped hchoose _ context fun logic => rfl
  | table =>
    simp (disch := decide) only [widgetArgs, frameArgs, Args.int, Args.list, SystemMethod.ofKind,
      SystemMethod.shipped, Args.view_modify_of_ne, Args.value_modify_of_ne, Args.value_modify_self]
    refine bind_map_eq fun frame => bind_map_eq fun values => bind_map_eq fun context => ?_
    exact withLogic_shipped hchoose _ context fun logic => rfl
  | label =>
    simp only [widgetArgs, SystemMethod.ofKind, SystemMethod.shipped]
    exact bind_map_eq fun origin => bind_map_eq fun text => bind_map_eq fun context => rfl
  | input =>
    simp only [widgetArgs, SystemMethod.ofKind, SystemMethod.shipped]
    exact bind_map_eq fun origin => bind_map_eq fun context => rfl

/-- A description that was shipped is read as the same one but for the form of programs. -/
theorem ofValue_shipped (description : Value) :
    (Descriptor.ofValue (description.shipped choose)).map (fun r => r.1.mapLogic Program.inText) =
      (Descriptor.ofValue description).map fun r => r.1.mapLogic Program.inText := by
  unfold Descriptor.ofValue
  rw [Descriptor.readNode_shipped hchoose]
  cases Descriptor.readNode [] description with
  | error e => rfl
  | ok read => exact congrArg Except.ok (Descriptor.inText_shipped choose read.1)

omit hchoose in
theorem recast_shipped (plan : WidgetPlan) :
    (plan.recast (Program.shipped choose)).recast Program.inText = plan.recast Program.inText := by
  have hform : Program.inText ∘ Program.shipped choose = Program.inText :=
    funext (Program.inText_shipped choose)
  simp only [WidgetPlan.recast, Option.map_map, hform]

namespace Setting

variable (s : Setting σ η κ) (b : BridgeState σ η κ)

theorem same_systemWidget_shipped (kind : WidgetKind) (values : List Value) :
    Same Program.inText
      (b.systemWidget s.platform kind ⟨(SystemMethod.ofKind kind).shipped choose values⟩)
      (b.systemWidget s.platform kind ⟨values⟩) := by
  unfold BridgeState.systemWidget
  rw [widgetArgs_shipped hchoose]
  cases widgetArgs kind ⟨values⟩ with
  | error e => exact .of_state _ rfl
  | ok asked => exact same_systemResult (s.same_buildAlone asked.1 (recast_shipped asked.2) rfl) _

theorem same_systemCall_shipped (method : SystemMethod) (args : Args) :
    Same Program.inText (b.systemCall s.platform s.layout method ⟨method.shipped choose args.values⟩)
      (b.systemCall s.platform s.layout method args) := by
  cases method with
  | button => exact s.same_systemWidget_shipped hchoose b .button args.values
  | table => exact s.same_systemWidget_shipped hchoose b .table args.values
  | ui =>
    have hcontext := Args.value_modify_of_ne (Value.shipped choose) args.values (i := 1) (j := 0) (by decide)
    have hdescription := Args.value_modify_self (Value.shipped choose) args.values 1
    simp only [BridgeState.systemCall, SystemMethod.shipped, hcontext, hdescription]
    cases args.value 0 with
    | error e => exact .of_state _ rfl
    | ok context =>
      cases args.value 1 with
      | error e => exact .of_state _ rfl
      | ok description => 
        exact same_systemResult (s.same_render context _ _ (ofValue_shipped hchoose description) rfl) _
  | _ => exact s.same_systemCall _ args rfl

variable [DecidableEq κ]

/-- By name: a call on the system object is shipped as the method that it means. -/
theorem same_invokeOver_shipped {inner : Reentry σ η κ} (running : List (ObjectRef κ))
    {handle : ObjectHandle} (hhandle : b.handles.find? handle = some .system) (name : String)
    (values : List Value) :
    Same Program.inText
      (s.invokeOver inner running handle name (shippedCall choose name values) b)
      (s.invokeOver inner running handle name values b) := by
  refine s.same_invokeOver_of_select running (fun o ho => ?_) rfl
  obtain rfl : .system = o := Option.some.inj (hhandle.symm.trans ho)
  have htable : s.tableOf .system = systemTable := rfl
  rw [htable, select_shippedCall]
  cases hselect : systemTable.select name values with
  | error e => exact .error rfl
  | ok selected =>
    refine .ok (s.same_runMethod_system running (fun method hmethod => ?_) rfl)
    -- The method at the position is the one of the name.
    obtain ⟨m, hindex, hname⟩ := MethodTable.name_of_select hselect
    rw [systemTable, List.getElem?_map, hmethod] at hindex
    obtain rfl : name = method.declaration.name := by
      rw [← hname, ← Option.some.inj hindex]
    simp only [shippedCall_name]
    exact s.same_systemCall_shipped hchoose b method selected.2

theorem same_invoke_shipped (n : Nat) (running : List (ObjectRef κ)) {handle : ObjectHandle}
    (hhandle : b.handles.find? handle = some .system) (name : String) (values : List Value) :
    Same Program.inText
      ((s.level n).invoke running handle name (shippedCall choose name values) b)
      ((s.level n).invoke running handle name values b) := by
  cases n with
  | zero => exact .of_state _ rfl
  | succ n => exact s.same_invokeOver_shipped hchoose b running hhandle name values

omit hchoose in
theorem evaluate_shipped (n : Nat) (running : List (ObjectRef κ)) {program program' : Program}
    (hdecode : program.decode = program'.decode) (bindings : List (String × HostValue κ)) :
    (s.level n).evaluate running program bindings b = (s.level n).evaluate running program' bindings b := by
  cases n with
  | zero => simp only [level, exhausted, hdecode]
  | succ n => simp only [level, evaluateOver, hdecode]

end Setting

end

/-! ### Uses -/

/-- The use with the chosen programs shipped as octets: the program of an evaluation, the logic of a
    widget, or the logics in a description.  A call by a handle is one of the system object only if the
    handle is. -/
def Setting.Use.shipped (choose : String → Bool) (b : BridgeState σ η κ) : Use η κ → Use η κ
  | .evaluate program bindings => .evaluate (program.shipped choose) bindings
  | .invoke handle name values =>
    match b.handles.find? handle with
    | some .system => .invoke handle name (shippedCall choose name values)
    | _ => .invoke handle name values
  | .system method args => .system method ⟨method.shipped choose args.values⟩
  | .render context description => .render context (description.shipped choose)
  | u => u

namespace Setting

variable [DecidableEq κ] (s : Setting σ η κ)

/-- Nothing tells the two outcomes apart: the answers are the same, the states are the same but for the
    form of programs, the same widgets are bound, and later uses are all answered the same. -/
structure Interchangeable (x y : Answer η κ × BridgeState σ η κ) : Prop where
  answer : x.1 = y.1
  form : x.2.recast Program.inText = y.2.recast Program.inText
  bound : ∀ id, (x.2.callbacks.find? id).isSome = (y.2.callbacks.find? id).isSome
  later : ∀ n running uses, s.answers n running uses x.2 = s.answers n running uses y.2

variable {s}

theorem Interchangeable.of_same {x y : Answer η κ × BridgeState σ η κ} (h : Same Program.inText x y) :
    s.Interchangeable x y where
  answer := h.result
  form := h.state
  bound id := by
    have hcallbacks : (x.2.recast Program.inText).callbacks = (y.2.recast Program.inText).callbacks :=
      congrArg BridgeState.callbacks h.state
    have hfind := congrArg (fun r => (r.find? id).isSome) hcallbacks
    simpa only [BridgeState.recast, CallbackRegistry.find?_recast, Option.isSome_map] using hfind
  later n running uses := s.answers_eq Program.decode_inText n running uses h.state

variable (s)

theorem interchangeable_shipped {choose : String → Bool}
    (hchoose : ∀ text, choose text = true → Program.Steady text) (n : Nat) (running : List (ObjectRef κ))
    (u : Use η κ) (b : BridgeState σ η κ) :
    s.Interchangeable (s.perform n running (u.shipped choose b) b) (s.perform n running u b) := by
  apply Interchangeable.of_same
  cases u with
  | evaluate program bindings =>
    have hdecode : (program.shipped choose).decode = program.decode := by
      rw [← Program.decode_inText, Program.inText_shipped, Program.decode_inText]
    simp only [Use.shipped, perform, s.evaluate_shipped b n running hdecode]
    exact ⟨rfl, rfl⟩
  | invoke handle name values =>
    simp only [Use.shipped]
    split
    · next hhandle =>
      exact (s.same_invoke_shipped hchoose b n running hhandle name values).map Answer.value
    · exact ⟨rfl, rfl⟩
  | system method args => exact (s.same_systemCall_shipped hchoose b method args).map Answer.system
  | render context description =>
    exact (s.same_render context _ _ (ofValue_shipped hchoose description) rfl).map Answer.rendered
  | _ => exact ⟨rfl, rfl⟩

end Setting

/-! ### One widget -/

namespace BridgeState

variable {platform : Platform σ} {context : Value} {plan : WidgetPlan} {b : BridgeState σ η κ}

/-- Under an id without a record, the platform decides whether there is a widget afterwards. -/
theorem born_buildAlone_iff (hfresh : ¬ b.Born b.counters.widget) :
    (b.buildAlone platform context plan).2.Born b.counters.widget ↔
      ∃ size, b.creationAnswer platform plan = .ok size := by
  change (b.build platform context plan .empty).2.2.Born _ ↔ _
  have hunborn : b.widgets.stateOf b.counters.widget = .unborn := not_not.mp hfresh
  cases hanswer : b.creationAnswer platform plan with
  | error e =>
    rcases b.create_cases platform context NameTable.empty plan with
      ⟨e', -, hcreate⟩ | ⟨size, e', haccepted, -⟩ | ⟨size, haccepted, -⟩
    · rw [build_of_create_error hcreate]
      exact iff_of_false hfresh (by simp)
    · cases hanswer.symm.trans haccepted
    · cases hanswer.symm.trans haccepted
  | ok size =>
    refine iff_of_true ?_ ⟨size, rfl⟩
    rcases build_of_accepted hanswer hunborn context .empty with ⟨e, -, hbuild⟩ | ⟨-, hbuild⟩
    · simp [hbuild, Born, WidgetTable.stateOf, WidgetTable.find?_set, WidgetPlan.record]
    · simp [hbuild, Born, WidgetTable.stateOf, WidgetTable.find?_set, afterPlacement]

theorem systemResult_snd {α : Type} (g : α → Value) (x : Except BridgeError α × BridgeState σ η κ) :
    (systemResult g x).2 = x.2 := by
  obtain ⟨result, b⟩ := x
  cases result <;> rfl

/-- A widget that is built alone is bound if there is a logic. -/
theorem bound_buildAlone_iff (hunbound : b.callbacks.find? b.counters.widget = none)
    (hfresh : ¬ b.Born b.counters.widget) :
    ((b.buildAlone platform context plan).2.callbacks.find? b.counters.widget).isSome ↔
      (b.buildAlone platform context plan).2.Born b.counters.widget ∧ plan.logic.isSome := by
  have hrendered := rendered_buildAlone platform context plan b
  rcases b.build_made_cases platform context plan .empty with
    ⟨hmade, hbuild⟩ | ⟨size, -, hmade, -⟩
  · rw [hmade] at hrendered
    have hsame := hrendered.others b.counters.widget (by simp [Rendering.ofMade, Rendering.empty])
    have hborn : ¬ (b.buildAlone platform context plan).2.Born b.counters.widget := by
      change ¬ (b.build platform context plan .empty).2.2.Born _
      rw [hbuild]
      exact hfresh
    simp [hsame, hunbound, hborn]
  · rw [hmade] at hrendered
    have hborn := hrendered.born _ (List.mem_singleton_self _)
    change (b.buildAlone platform context plan).2.Born b.counters.widget at hborn
    cases hlogic : plan.logic with
    | none =>
      have hsame := hrendered.others b.counters.widget
        (by simp [Rendering.ofMade, Rendering.add, Rendering.empty, hlogic])
      simp [hsame, hunbound]
    | some program =>
      have hbound := hrendered.bound _ (List.mem_singleton_self _) program hlogic
      change (b.buildAlone platform context plan).2.callbacks.find? b.counters.widget = _ at hbound
      simp [hbound, hborn]

end BridgeState

/-- A request for one widget, to which a logic is still to be added. -/
inductive WidgetRequest where
  | button (context : Value) (x y width height : Int64) (text : Value) (image : Option String)
  | table (context : Value) (x y width height : Int64) (values : List Value)
  | leaf (kind : WidgetKind) (context : Value) (attributes : List (String × Value))

namespace WidgetRequest

def context : WidgetRequest → Value
  | .button context .. => context
  | .table context .. => context
  | .leaf _ context _ => context

/-- The use that asks for the widget with a value as its logic. -/
def withLogic (r : WidgetRequest) (logic : Value) : Setting.Use η κ :=
  match r with
  | .button context x y width height text image =>
    .system .button ⟨[context, .int x, .int y, .int width, .int height, logic, text,
      (image.map Value.string).getD .nil]⟩
  | .table context x y width height values =>
    .system .table ⟨[context, .int x, .int y, .int width, .int height, .list values, logic]⟩
  | .leaf kind context attributes =>
    .render context (.list [.string (Tag.leaf kind).name, .map attributes, .map [("logic", logic)]])

/-- The widget that is asked for. -/
def plan (layout : LayoutConfig) (r : WidgetRequest) (logic : Option Program) : WidgetPlan :=
  match r with
  | .button _ x y width height text image =>
    ⟨.button (.of ⟨x, y⟩ (.clamped width height)) (labelText text) image, none, logic⟩
  | .table _ x y width height values => ⟨.table (.of ⟨x, y⟩ (.clamped width height)) values, none, logic⟩
  | .leaf kind _ attributes =>
    .ofLeaf kind { (Attributes.none.setAll attributes).1 with logic := logic } layout.rootOrigin

@[simp] theorem plan_logic (layout : LayoutConfig) (r : WidgetRequest) (logic : Option Program) :
    (r.plan layout logic).logic = logic := by
  cases r <;> rfl

theorem plan_blueprint (layout : LayoutConfig) (r : WidgetRequest) (logic logic' : Option Program) :
    (r.plan layout logic).blueprint = (r.plan layout logic').blueprint := by
  cases r <;> rfl

/-- The logic of a leaf is the last thing that its description says. -/
theorem ofValue_leaf (kind : WidgetKind) (attributes : List (String × Value)) {v : Value}
    {logic : Option Program} (hlogic : logicOf v = .ok logic) :
    Descriptor.ofValue (.list [.string (Tag.leaf kind).name, .map attributes, .map [("logic", v)]]) =
      .ok (.leaf kind { (Attributes.none.setAll attributes).1 with logic := logic },
        (Attributes.none.setAll attributes).2.map fun e => ⟨[.leaf kind], none, e⟩) := by
  have hset : (Attributes.none.setAll attributes).1.set "logic" v =
      .ok { (Attributes.none.setAll attributes).1 with logic := logic } := by
    rw [Attributes.set_logic]
    unfold logicOf at hlogic
    cases hv : Program.Logic.ofValue v <;> simp_all
  simp [Descriptor.ofValue, Descriptor.readNode, Tag.ofName?_name, Descriptor.readItems, Attributes.setAll,
    hset, Descriptor.Body.toNode]

variable [DecidableEq κ]

theorem use_withLogic (s : Setting σ η κ) (r : WidgetRequest) {v : Value} {logic : Option Program}
    (hlogic : logicOf v = .ok logic) (n : Nat) (running : List (ObjectRef κ)) (b : BridgeState σ η κ) :
    s.use n running (r.withLogic v) b = (b.buildAlone s.platform r.context (r.plan s.layout logic)).2 := by
  cases r with
  | button context x y width height text image =>
    have hasked : widgetArgs .button ⟨[context, .int x, .int y, .int width, .int height, v, text,
        (image.map Value.string).getD .nil]⟩ =
        logicOf v >>= fun logic =>
          .ok (context, (button context x y width height text image).plan s.layout logic) := by
      cases image <;> rfl
    simp only [Setting.use, withLogic, BridgeState.systemCall, BridgeState.systemWidget, hasked, hlogic]
    exact BridgeState.systemResult_snd _ _
  | table context x y width height values =>
    have hasked : widgetArgs .table ⟨[context, .int x, .int y, .int width, .int height, .list values, v]⟩ =
        logicOf v >>= fun logic =>
          .ok (context, (table context x y width height values).plan s.layout logic) := rfl
    simp only [Setting.use, withLogic, BridgeState.systemCall, BridgeState.systemWidget, hasked, hlogic]
    exact BridgeState.systemResult_snd _ _
  | leaf kind context attributes =>
    simp only [Setting.use, withLogic, BridgeState.render, ofValue_leaf kind attributes hlogic]
    rfl

end WidgetRequest

namespace Setting

variable [DecidableEq κ]

/-- What becomes of one widget whose logic is a text or its octets: it is created in both forms or in
    neither, and then the text is bound if it is not blank, the octets if there are any. -/
theorem bound_withLogic (s : Setting σ η κ) (text : String) (r : WidgetRequest) (n : Nat)
    (running : List (ObjectRef κ)) {b : BridgeState σ η κ} (hfresh : ¬ b.Born b.counters.widget)
    (hunbound : b.callbacks.find? b.counters.widget = none) :
    let id := b.counters.widget
    let asText := s.use n running (r.withLogic (.string text)) b
    let asOctets := s.use n running (r.withLogic (.bytes (Utf8.octets text))) b
    (asText.Born id ↔ asOctets.Born id) ∧
    ((asText.callbacks.find? id).isSome ↔ asText.Born id ∧ Text.isBlank text = false) ∧
    ((asOctets.callbacks.find? id).isSome ↔ asOctets.Born id ∧ text ≠ "") := by
  intro id asText asOctets
  have hasText := r.use_withLogic s (logicOf_text text) n running b
  have hasOctets := r.use_withLogic s (logicOf_octets text) n running b
  simp only [asText, asOctets, id, hasText, hasOctets]
  refine ⟨?_, ?_, ?_⟩
  · rw [BridgeState.born_buildAlone_iff hfresh, BridgeState.born_buildAlone_iff hfresh]
    simp only [BridgeState.creationAnswer]
    rw [r.plan_blueprint]
  · rw [BridgeState.bound_buildAlone_iff hunbound hfresh]
    refine and_congr_right fun _ => ?_
    rw [WidgetRequest.plan_logic]
    split <;> simp [*]
  · rw [BridgeState.bound_buildAlone_iff hunbound hfresh]
    refine and_congr_right fun _ => ?_
    rw [WidgetRequest.plan_logic]
    split <;> simp [*]

theorem perform_dispatch_eq_none_iff (s : Setting σ η κ) (n : Nat) (running : List (ObjectRef κ))
    (id : WidgetId) (event : Value) (b : BridgeState σ η κ) :
    (s.perform n running (.dispatch id event) b).1 = .fired none ↔ b.callbacks.find? id = none := by
  change Answer.fired (dispatchBy ((s.level n).evaluate running) id event b).1 = _ ↔ _
  simp only [dispatchBy, CallbackRegistry.fire]
  cases b.callbacks.find? id with
  | none => simp
  | some binding => simp

/-- Programs as text and as octets.  An evaluation is the same in both forms, for every text.  So is any
    use of the bridge in which logics are shipped as octets, alone or in a description, if each text among
    them is empty or not blank: nothing tells the forms apart afterwards.  A widget by itself is created in
    both forms or in neither, and is then bound if the text is not blank, or if there are any octets; so
    the forms differ exactly for the texts of white space alone, which dispatch nothing, and whose octets
    dispatch a program. -/
theorem program_forms (s : Setting σ η κ) :
    (∀ (text : String) n running bindings (b : BridgeState σ η κ),
      (s.level n).evaluate running (.bytes (Utf8.octets text)) bindings b =
        (s.level n).evaluate running (.source text) bindings b) ∧
    (∀ choose : String → Bool, (∀ text, choose text = true → Program.Steady text) →
      ∀ n running u (b : BridgeState σ η κ),
        s.Interchangeable (s.perform n running (u.shipped choose b) b) (s.perform n running u b)) ∧
    (∀ (text : String) (r : WidgetRequest) n running (b : BridgeState σ η κ),
      ¬ b.Born b.counters.widget → b.callbacks.find? b.counters.widget = none →
      let id := b.counters.widget
      let asText := s.use n running (r.withLogic (.string text)) b
      let asOctets := s.use n running (r.withLogic (.bytes (Utf8.octets text))) b
      (asText.Born id ↔ asOctets.Born id) ∧
      ((asText.callbacks.find? id).isSome ↔ asText.Born id ∧ Text.isBlank text = false) ∧
      ((asOctets.callbacks.find? id).isSome ↔ asOctets.Born id ∧ text ≠ "")) ∧
    (∀ n running id event (b : BridgeState σ η κ),
      (s.perform n running (.dispatch id event) b).1 = .fired none ↔ b.callbacks.find? id = none) := by
  refine ⟨?evaluate, ?shipped, ?bound, ?dispatch⟩
  case evaluate =>
    intro text n running bindings b
    exact s.evaluate_shipped b n running (Program.decode_octets text) bindings
  case shipped =>
    intro choose hchoose n running u b
    exact s.interchangeable_shipped hchoose n running u b
  case bound =>
    intro text r n running b hfresh hunbound
    exact s.bound_withLogic text r n running hfresh hunbound
  case dispatch =>
    intro n running id event b
    exact s.perform_dispatch_eq_none_iff n running id event b

/-- A button whose logic is a call is bound in both forms, and nothing tells the two apart. -/
theorem program_forms_call :
    let s := Setting.rehearsal
    let b : BridgeState Recorder (List (List Value)) EchoClass := .initial .standard [] .first
    let button : WidgetRequest := .button .nil 0 0 0 0 (.string "a") none
    let asText := s.use maxLevels [] (button.withLogic (.string "log(1)")) b
    let asOctets := s.use maxLevels [] (button.withLogic (.bytes (Utf8.octets "log(1)"))) b
    (asText.callbacks.find? 1001).isSome ∧ (asOctets.callbacks.find? 1001).isSome ∧
      (s.perform maxLevels [] (.dispatch 1001 .nil) asOctets).1 ≠ .fired none ∧
      s.Interchangeable (s.perform maxLevels [] (button.withLogic (.bytes (Utf8.octets "log(1)"))) b)
        (s.perform maxLevels [] (button.withLogic (.string "log(1)")) b) := by
  intro s b button asText asOctets
  obtain ⟨-, hshipped, hbound, hdispatch⟩ := program_forms s
  have hfresh : ¬ b.Born b.counters.widget := not_not.mpr rfl
  have hborn : asText.widgets.stateOf b.counters.widget ≠ .unborn := by decide +kernel
  obtain ⟨hsame, htext, hoctets⟩ := hbound "log(1)" button maxLevels [] b hfresh rfl
  have hsome : (asOctets.callbacks.find? 1001).isSome := hoctets.mpr ⟨hsame.mp hborn, by decide⟩
  refine ⟨htext.mpr ⟨hborn, by decide⟩, hsome, ?_, ?_⟩
  · rw [Ne, hdispatch]
    exact Option.isSome_iff_ne_none.mp hsome
  · have hchoose : ∀ text, (text == "log(1)") = true → Program.Steady text := by
      intro text htext
      rw [eq_of_beq htext]
      exact Or.inr (by decide)
    exact hshipped _ hchoose maxLevels [] (button.withLogic (.string "log(1)")) b

/-- A button whose logic is one blank dispatches nothing, and one whose logic is the octet of the blank
    dispatches a program. -/
theorem program_forms_blank :
    let s := Setting.rehearsal
    let b : BridgeState Recorder (List (List Value)) EchoClass := .initial .standard [] .first
    let button : WidgetRequest := .button .nil 0 0 0 0 (.string "a") none
    let dispatched := fun logic =>
      (s.perform maxLevels [] (.dispatch b.counters.widget .nil)
        (s.use maxLevels [] (button.withLogic logic) b)).1
    dispatched (.string " ") = .fired none ∧
      dispatched (.bytes (Utf8.octets " ")) ≠ .fired none := by
  intro s b button dispatched
  constructor
  · rw [perform_dispatch_eq_none_iff]
    decide +kernel
  · rw [Ne, perform_dispatch_eq_none_iff]
    decide +kernel

end Setting

end ScriptBridge
