/-
  ScriptBridge/Proofs/Bridge/Helpers.lean
  =======================================
  **The global helpers and the methods of the system object.**

  A script may write `ui(ctx, d)` or `sys.ui(ctx, d)`.  The helper takes its two
  arguments out of the script, renders, and hands the outcome back.  The method
  goes the way of every method: the handle is looked up, the table selects a
  declaration and binds the arguments, an adapter runs it, and an error is
  wrapped twice on its way back.  All of this adds nothing, so that both come to
  the same, whatever the arguments are and however the call ends.  So do
  `ui_set(t, v)` and `sys.ui_set(t, v)`, but for what they return.

  A helper is hidden from calls with a handle as their first argument when some
  class declares a method of its name with one argument.
-/
import ScriptBridge.Proofs.Bridge.Conduct
import ScriptBridge.Proofs.Bridge.Refusal
import ScriptBridge.Proofs.Bridge.ReservedNames
import ScriptBridge.Proofs.Class.Seen

namespace ScriptBridge

/-! ### The class of the system object is seen -/

namespace BridgeState

variable {σ η κ : Type} {b : BridgeState σ η κ}

theorem create_classes (platform : Platform σ) (context : Value) (names : NameTable)
    (plan : WidgetPlan) (b : BridgeState σ η κ) :
    (b.create platform context names plan).2.classes = b.classes := by
  rcases b.create_cases platform context names plan with
    ⟨e, -, h⟩ | ⟨size, e, -, -, h⟩ | ⟨size, -, -, h⟩
  · rw [h]
    rfl
  · rw [h]
    rfl
  · rw [h]
    exact bindLogic_classes ..

theorem build_classes (platform : Platform σ) (context : Value) (plan : WidgetPlan) (r : Rendering)
    (b : BridgeState σ η κ) : (b.build platform context plan r).2.2.classes = b.classes :=
  build_invariant (I := fun b' => b'.classes = b.classes) (create_classes ..) (fun _ _ h => h)
    fun id frame _ h => (place_classes id frame).trans h

end BridgeState

namespace Setting

variable {σ η κ : Type} [DecidableEq κ] {s : Setting σ η κ} {b b₁ : BridgeState σ η κ}

theorem describes_act (a : Action η κ) (c : Chronicle σ η κ)
    (h : c.state.classes.Describes s.family) : (s.act a c).state.classes.Describes s.family := by
  cases a with
  | adopt o => exact h.tableFor o.classKey
  | closeScope =>
    simp only [act]
    split <;> exact h
  | build context plan r => simpa only [act, BridgeState.build_classes] using h
  | put target frame =>
    rcases c.state.put_cases s.platform target frame with ⟨e, heq⟩ | ⟨id, heq⟩
    · simpa only [act, heq] using h
    · simpa only [act, heq, BridgeState.place_classes] using h
  | setText target text =>
    obtain ⟨p, heq⟩ := c.state.setText_eq s.platform target text
    simpa only [act, heq] using h
  | destroy id =>
    rcases c.state.destroyWidget_cases id with ⟨e, heq⟩ | ⟨r, -, -, heq⟩
    · simpa only [act, heq] using h
    · simpa only [act, heq, BridgeState.afterDestruction] using h
  | _ => exact h

/-- On a bridge that any actions led to, the classes are there with their descriptions. -/
theorem describes_of_reaches {p : σ} {host : η} {counters : Counters}
    (h : s.Reaches (.initial p host counters) b) : b.classes.Describes s.family := by
  obtain ⟨actions, hrun⟩ := h
  rw [← hrun (.initial p host counters) rfl]
  exact s.actAll_invariant (I := fun c => c.state.classes.Describes s.family) describes_act actions _
    (ClassRegistry.describes_empty s.family)

/-- The rest of the entries of a scope comes after the value of the first one was handed over. -/
theorem bindScope_cons_eq_some {e : String × HostValue κ} {rest : List (String × HostValue κ)}
    {scope : Scope} (hbind : s.bindScope (e :: rest) b = (some scope, b₁)) :
    ∃ others, s.bindScope rest (b.lower s.family e.2).2 = (some others, b₁) := by
  obtain ⟨name, v⟩ := e
  simp only [bindScope] at hbind
  split at hbind
  · cases hbind
  · split at hbind
    · cases hbind
    · next others b' hrest =>
      cases hbind
      exact ⟨others, hrest⟩

theorem all_subset_lower (v : HostValue κ) (b : BridgeState σ η κ) :
    b.classes.all ⊆ (b.lower s.family v).2.classes.all := by
  cases v with
  | value v => exact List.Subset.refl _
  | object o => exact b.classes.all_subset_tableFor s.family o.classKey

theorem all_subset_bindScope {entries : List (String × HostValue κ)} {scope : Scope}
    (hbind : s.bindScope entries b = (some scope, b₁)) : b.classes.all ⊆ b₁.classes.all := by
  induction entries generalizing b scope with
  | nil =>
    cases hbind
    exact List.Subset.refl _
  | cons e rest ih =>
    obtain ⟨others, hrest⟩ := bindScope_cons_eq_some hbind
    exact List.Subset.trans (all_subset_lower e.2 b) (ih hrest)

/-- An object that was put in scope has its class seen. -/
theorem tableOf_mem_of_bindScope (hdescribes : b.classes.Describes s.family)
    {entries : List (String × HostValue κ)} {name : String} {o : ObjectRef κ}
    (hmem : (name, .object o) ∈ entries) {scope : Scope}
    (hbind : s.bindScope entries b = (some scope, b₁)) : s.tableOf o ∈ b₁.classes.all := by
  induction entries generalizing b scope with
  | nil => cases hmem
  | cons e rest ih =>
    obtain ⟨others, hrest⟩ := bindScope_cons_eq_some hbind
    rcases List.mem_cons.mp hmem with rfl | hmem
    · exact all_subset_bindScope hrest (ClassRegistry.mem_all_tableFor hdescribes o.classKey)
    · refine ih ?_ hmem hrest
      obtain ⟨-, v⟩ := e
      cases v with
      | value v => exact hdescribes
      | object o' => exact hdescribes.tableFor o'.classKey

/-- Every script on a bridge that any actions led to starts with the class of the system object seen. -/
theorem systemTable_mem_of_reaches {p : σ} {host : η} {counters : Counters}
    (hreached : s.Reaches (.initial p host counters) b) {bindings : List (String × HostValue κ)}
    {scope : Scope} (hbind : s.bindScope (bindings ++ s.fixedBindings) b = (some scope, b₁)) :
    systemTable ∈ b₁.classes.all :=
  tableOf_mem_of_bindScope (o := .system) (describes_of_reaches hreached)
    (List.mem_append_right _ List.mem_cons_self) hbind

end Setting

/-! ### What the two ways mean -/

namespace Natives

variable {n : Natives} {name : String}

/-- A name that no class declares with so many arguments is not advertised with them. -/
theorem advertises_of_none_accepts {arity : Nat}
    (hfree : ∀ t ∈ n.tables, ∀ m ∈ t.methods, m.name = name → m.accepts arity = false) :
    n.advertises name arity = false := by
  refine Bool.eq_false_iff.mpr fun hadvertised => ?_
  obtain ⟨t, ht, m, hm, hname, harity⟩ := advertises_iff.mp hadvertised
  have hrefused := hfree t ht m hm hname
  rw [MethodTable.mem_declaredArities_iff] at harity
  unfold MethodDecl.accepts at hrefused
  split at harity <;> simp_all

/-- A pair of arguments means a global function when no method of the name takes one argument. -/
theorem select_pair (hglobal : name ∈ globalNames)
    (hfree : ∀ t ∈ n.tables, ∀ m ∈ t.methods, m.name = name → m.accepts 1 = false) (d d' : Data) :
    n.select name [d, d'] = selectGlobal name 2 := by
  have hoffers : n.offers name 1 = false := by
    rw [offers, advertises_of_none_accepts hfree]
    simp [hglobal]
  cases d with
  | handle h => simp [select, hoffers]
  | _ => rfl

/-- Called on a handle, the name of a method of the system object means a method. -/
theorem select_system (hseen : systemTable ∈ n.tables) (method : SystemMethod) {args : List Data}
    (haccepts : method.declaration.accepts args.length = true)
    (hcount : method.declaration.rest = none ∨ args.length ≤ maxArity) (h : ObjectHandle) :
    n.select method.declaration.name (.handle h :: args) = some (.method method.declaration.name) := by
  have hmem : method.declaration ∈ systemTable.methods :=
    List.mem_map_of_mem (by cases method <;> decide)
  have hretain : method.declaration.name ≠ "retain" := by cases method <;> decide
  have hinvoke : method.declaration.name ≠ "invoke" := by cases method <;> decide
  rw [select_offered (offers_of_accepts hseen hmem haccepts hcount),
    precedent?_eq_none (fun hname => hretain hname.1) fun _ _ hname => hinvoke hname.1,
    Option.getD_none]

end Natives

namespace Setting

variable {σ η κ : Type} [DecidableEq κ] (s : Setting σ η κ) (inner : Reentry σ η κ)
  (running : List (ObjectRef κ)) {b : BridgeState σ η κ} {h : ObjectHandle}

/-- The method of the system object for two arguments of any kind runs as soon as both cross. -/
theorem invokeScript_pair (hsys : b.handles.find? h = some .system) {name : String} {m : MethodDecl}
    {index : Nat} (hresolve : systemTable.resolve? name 2 = some (m, index))
    (hbind : ∀ v w, m.bind [v, w] = .ok ⟨[v, w]⟩) (d d' : Data) :
    s.invokeScript inner running h name [d, d'] b =
      match d.unmarshal, d'.unmarshal with
      | .ok v, .ok w =>
        s.answerTo systemTable name (s.runMethod inner running .system index ⟨[v, w]⟩ b)
      | .error e, _ => (.error (BridgeError.marshal e).toData, b)
      | _, .error e => (.error (BridgeError.marshal e).toData, b) := by
  cases hd : d.unmarshal with
  | error e => simp [invokeScript, Data.unmarshalAll, hd]
  | ok v =>
    cases hd' : d'.unmarshal with
    | error e => simp [invokeScript, Data.unmarshalAll, hd, hd']
    | ok w =>
      have hvalues : Data.unmarshalAll [d, d'] = .ok [v, w] := by simp [Data.unmarshalAll, hd, hd']
      exact s.invokeScript_of_bound inner running hsys hvalues hresolve (hbind v w)

theorem invokeScript_ui (hsys : b.handles.find? h = some .system) (context description : Data) :
    s.invokeScript inner running h "ui" [context, description] b =
      s.callNative inner running .ui [context, description] b := by
  have hresolve : systemTable.resolve? "ui" 2 = some (SystemMethod.ui.declaration, 8) := by decide
  rw [s.invokeScript_pair inner running hsys hresolve (fun _ _ => rfl), callNative]
  cases context.unmarshal with
  | error e => rfl
  | ok v =>
    cases description.unmarshal with
    | error e => rfl
    | ok w =>
      have hcall : b.systemCall s.platform s.layout .ui ⟨[v, w]⟩ =
          BridgeState.systemResult RenderOutput.toValue (b.render s.platform s.layout v w) := rfl
      have hui : SystemMethod.all[8]? = some .ui := rfl
      simp only [runMethod, hui, hcall]
      rcases b.render s.platform s.layout v w with ⟨_ | output, b'⟩
      · rfl
      · rfl

/-- The helper returns unit where the method returns the empty list. -/
theorem invokeScript_uiSet (hsys : b.handles.find? h = some .system) (target text : Data) :
    ∃ (outcome : Except Data Unit) (b' : BridgeState σ η κ),
      s.callNative inner running .uiSet [target, text] b = (outcome.map fun _ => .unit, b') ∧
      s.invokeScript inner running h "ui_set" [target, text] b =
        (outcome.map fun _ => .array [], b') := by
  have hresolve : systemTable.resolve? "ui_set" 2 = some (SystemMethod.uiSet.declaration, 6) := by decide
  rw [s.invokeScript_pair inner running hsys hresolve (fun _ _ => rfl), callNative]
  cases target.unmarshal with
  | error e => exact ⟨.error _, b, rfl, rfl⟩
  | ok v =>
    cases text.unmarshal with
    | error e => exact ⟨.error _, b, rfl, rfl⟩
    | ok w => exact ⟨.ok (), b.setText s.platform v w, rfl, rfl⟩

/-- How a call of a function of the bridge ends, and the state that it leaves; in a script that makes
    the call it ends so too. -/
structure Ends (n : Natives) (name : String) (args : List Data) (b : BridgeState σ η κ)
    (outcome : Except Data Data) (b' : BridgeState σ η κ) : Prop where
  asked : s.scriptCall inner running n name args b = some (outcome, b')
  script : ∀ (known : Surroundings) place vars, known.natives = n →
    ((Eval.callOutside known name args place).run.run vars).run (s.serveScript inner running) b =
      ((Eval.ending outcome, vars), b')

theorem ends_of_select {n : Natives} {name : String} {args : List Data} {native : Native}
    (hname : name ≠ "type_of" ∧ name ≠ "print" ∧ name ≠ "debug")
    (hselect : n.select name args = some native) {outcome : Except Data Data}
    {b' : BridgeState σ η κ} (hcall : s.callNative inner running native args b = (outcome, b')) :
    s.Ends inner running n name args b outcome b' := by
  constructor
  · rw [scriptCall, hselect, Option.map_some, hcall]
  · rintro known place vars rfl
    rw [Eval.run_callOutside hname hselect place vars b, serveScript, hcall]

/-- Every script on a bridge that any actions led to starts with the class of the system object seen.
    With it, and without a class that has a method `ui` or `ui_set` for one argument, the global helpers
    mirror the methods on every bridge.  `ui(ctx, d)` and `sys.ui(ctx, d)` return the same value, or throw
    the same error of an operation, and leave the same state.  `ui_set(t, v)` and `sys.ui_set(t, v)` throw
    the same error, or none, and leave the same state, and where they return they return unit and the
    empty list.  The arguments may be any data. -/
theorem helpers_mirror_methods :
    (∀ {p : σ} {host : η} {counters : Counters} {b b₁ : BridgeState σ η κ}
      {bindings : List (String × HostValue κ)} {scope : Scope},
      s.Reaches (.initial p host counters) b →
      s.bindScope (bindings ++ s.fixedBindings) b = (some scope, b₁) →
      systemTable ∈ b₁.classes.all) ∧
    ∀ (n : Natives) {b : BridgeState σ η κ} {h : ObjectHandle},
      b.handles.find? h = some .system → systemTable ∈ n.tables →
      (∀ t ∈ n.tables, ∀ m ∈ t.methods, m.name = "ui" ∨ m.name = "ui_set" → m.accepts 1 = false) →
      ∀ d d' : Data,
        (∃ outcome b',
          s.Ends inner running n "ui" [d, d'] b outcome b' ∧
          s.Ends inner running n "ui" [.handle h, d, d'] b outcome b' ∧
          ∀ thrown, outcome = .error thrown → ∃ e : BridgeError, thrown = e.toData) ∧
        ∃ (outcome : Except Data Unit) (b' : BridgeState σ η κ),
          s.Ends inner running n "ui_set" [d, d'] b (outcome.map fun _ => .unit) b' ∧
          s.Ends inner running n "ui_set" [.handle h, d, d'] b (outcome.map fun _ => .array []) b' ∧
          ∀ thrown, outcome = .error thrown → ∃ e : BridgeError, thrown = e.toData := by
  refine ⟨fun hreached hbind => systemTable_mem_of_reaches hreached hbind, ?_⟩
  intro n b h hsys hseen hfree d d'
  have hui : n.select "ui" [d, d'] = some .ui := by
    rw [Natives.select_pair (by decide) fun t ht m hm hname => hfree t ht m hm (.inl hname)]
    rfl
  have hset : n.select "ui_set" [d, d'] = some .uiSet := by
    rw [Natives.select_pair (by decide) fun t ht m hm hname => hfree t ht m hm (.inr hname)]
    rfl
  have hsysUi : n.select "ui" [.handle h, d, d'] = some (.method "ui") :=
    Natives.select_system hseen .ui rfl (.inl rfl) h
  have hsysSet : n.select "ui_set" [.handle h, d, d'] = some (.method "ui_set") :=
    Natives.select_system hseen .uiSet rfl (.inl rfl) h
  constructor
  · have hhelper := s.invokeScript_ui inner running hsys d d'
    rcases hcall : s.invokeScript inner running h "ui" [d, d'] b with ⟨outcome, b'⟩
    refine ⟨outcome, b', s.ends_of_select inner running (by decide) hui (hhelper.symm.trans hcall),
      s.ends_of_select inner running (by decide) hsysUi hcall, ?_⟩
    rintro thrown rfl
    exact s.error_of_invokeScript inner running (congrArg Prod.fst hcall)
  · obtain ⟨outcome, b', hhelper, hcall⟩ := s.invokeScript_uiSet inner running hsys d d'
    refine ⟨outcome, b', s.ends_of_select inner running (by decide) hset hhelper,
      s.ends_of_select inner running (by decide) hsysSet hcall, ?_⟩
    rintro thrown rfl
    exact s.error_of_invokeScript inner running (congrArg Prod.fst hcall)

/-- A bridge on which the system object is in reach. -/
def withSystem : BridgeState Recorder (List (List Value)) EchoClass :=
  ((BridgeState.initial .standard [] .first).adopt rehearsal.family .system).2

/-- A label whose context is the handle of the system object itself: both ways make the same widget. -/
theorem helpers_mirror_methods_label :
    let n : Natives := ⟨withSystem.classes.all⟩
    let label : Data := .array [.string "label", .map [("text", .string "hi")]]
    withSystem.handles.find? ⟨1⟩ = some .system ∧ systemTable ∈ n.tables ∧
    (∀ t ∈ n.tables, ∀ m ∈ t.methods, m.name = "ui" ∨ m.name = "ui_set" → m.accepts 1 = false) ∧
    ∃ outcome b',
      rehearsal.scriptCall (rehearsal.level 1) [] n "ui" [.handle ⟨1⟩, label] withSystem =
        some (outcome, b') ∧
      rehearsal.scriptCall (rehearsal.level 1) [] n "ui" [.handle ⟨1⟩, .handle ⟨1⟩, label] withSystem =
        some (outcome, b') ∧
      outcome.toOption.bind (fun d => d.unmarshal.toOption) =
        some (.map [("height", .int 46), ("id", .int 1001), ("width", .int 46)]) := by
  intro n label
  have hsys : withSystem.handles.find? ⟨1⟩ = some .system := by decide +kernel
  have hseen : systemTable ∈ n.tables := by decide +kernel
  have hfree : ∀ t ∈ n.tables, ∀ m ∈ t.methods, m.name = "ui" ∨ m.name = "ui_set" →
      m.accepts 1 = false := by decide +kernel
  obtain ⟨-, hmirror⟩ := helpers_mirror_methods rehearsal (rehearsal.level 1) []
  obtain ⟨⟨outcome, b', hhelper, hmethod, -⟩, -⟩ := hmirror n hsys hseen hfree (.handle ⟨1⟩) label
  refine ⟨hsys, hseen, hfree, outcome, b', hhelper.asked, hmethod.asked, ?_⟩
  have hmade : (rehearsal.scriptCall (rehearsal.level 1) [] n "ui" [.handle ⟨1⟩, label] withSystem).map
      (fun called => called.1.toOption.bind fun d => d.unmarshal.toOption) =
        some (some (.map [("height", .int 46), ("id", .int 1001), ("width", .int 46)])) := by
    decide +kernel
  rw [hhelper.asked] at hmade
  exact Option.some.inj hmade

end Setting
end ScriptBridge
