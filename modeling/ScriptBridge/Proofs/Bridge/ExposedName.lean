/-
  ScriptBridge/Proofs/Bridge/ExposedName.lean
  ===========================================
  **Which names of a callback object scripts can use.**

  A bridge checks the name of its callback object before it is made: it must be
  an identifier, and none of the names that the scope of a dispatch has.  The
  script language has rules of its own.  A name of them is an identifier with a
  letter that no digit comes before, and no word of the language, and the check
  of the bridge asks for neither.  So a script that is such a name alone ends
  with the handle of the callback object, in every evaluation and every dispatch,
  since the object is the last thing put in scope; and any other name that the
  bridge accepts never stands for the object.
-/
import ScriptBridge.Proofs.Bridge.DispatchScope
import ScriptBridge.Proofs.Script.Words

namespace ScriptBridge

variable {σ η κ : Type}

/-! ### The check of a name -/

theorem isIdentifier_iff {name : String} : isIdentifier name = true ↔ Vocabulary.Spelled name := by
  unfold isIdentifier Vocabulary.Spelled
  cases name.toList with
  | nil => simp
  | cons c cs =>
    simp only [Bool.and_eq_true, List.all_eq_true]
    constructor
    · rintro ⟨hc, hcs⟩
      exact ⟨c, cs, rfl, hc, hcs⟩
    · rintro ⟨c', cs', heq, hc, hcs⟩
      cases heq
      exact ⟨hc, hcs⟩

theorem spelled_of_reserved {name : String} (h : name ∈ reservedNames) : Vocabulary.Spelled name := by
  rw [← isIdentifier_iff]
  simp only [reservedNames, List.mem_cons, List.not_mem_nil, or_false] at h
  rcases h with rfl | rfl | rfl | rfl <;> decide

theorem checkExposedName_cases (name : String) :
    (checkExposedName name = .error (.invalidExposedName name) ∧ ¬ Vocabulary.Spelled name) ∨
    (checkExposedName name = .error (.reservedName name) ∧ name ∈ reservedNames) ∨
    (checkExposedName name = .ok () ∧ Vocabulary.Spelled name ∧ name ∉ reservedNames) := by
  unfold checkExposedName
  by_cases hspelled : Vocabulary.Spelled name
  · have hidentifier := isIdentifier_iff.mpr hspelled
    by_cases hreserved : name ∈ reservedNames
    · simp [hidentifier, hreserved]
    · simp [hidentifier, hreserved, hspelled]
  · have hidentifier : isIdentifier name = false := by
      rwa [← Bool.not_eq_true, isIdentifier_iff]
    simp [hidentifier, hspelled]

/-! ### The callback object in scope -/

namespace Setting

variable [DecidableEq κ] {s : Setting σ η κ} {b b₁ : BridgeState σ η κ} {scope : Scope}

/-- A value, as a binding, is what stands for it in the script; an object is its handle. -/
def crossing (s : Setting σ η κ) (v : HostValue κ) (b : BridgeState σ η κ) : Except MarshalError Data :=
  (b.lower s.family v).1.marshal

theorem bindScope_cons (name : String) (v : HostValue κ) (rest : List (String × HostValue κ))
    (b : BridgeState σ η κ) :
    s.bindScope ((name, v) :: rest) b =
      match s.crossing v b with
      | .error _ => (none, (b.lower s.family v).2)
      | .ok d =>
        ((s.bindScope rest (b.lower s.family v).2).1.map ((name, d) :: ·),
          (s.bindScope rest (b.lower s.family v).2).2) := by
  rw [bindScope, crossing]
  rcases b.lower s.family v with ⟨lowered, b'⟩
  cases hmarshal : lowered.marshal with
  | error e => simp only [hmarshal]
  | ok d =>
    simp only [hmarshal]
    rcases s.bindScope rest b' with ⟨_ | _, b''⟩
    · rfl
    · rfl

theorem crossing_value (v : Value) (b : BridgeState σ η κ) :
    (∃ d, s.crossing (.value v) b = .ok d) ↔ v.depth ≤ nestingLimit := by
  change (∃ d, v.marshal = .ok d) ↔ _
  by_cases hdepth : v.depth ≤ nestingLimit
  · simp [marshal_of_le hdepth, hdepth]
  · simp [marshal_of_gt (Nat.lt_of_not_le hdepth), hdepth]

theorem crossing_object (o : ObjectRef κ) (b : BridgeState σ η κ) :
    ∃ d, s.crossing (.object o) b = .ok d := ⟨_, rfl⟩

/-- Bindings can be put in scope exactly when no value among them is nested too deeply. -/
theorem isSome_bindScope_iff (s : Setting σ η κ) (bindings : List (String × HostValue κ))
    (b : BridgeState σ η κ) :
    (s.bindScope (bindings ++ s.fixedBindings) b).1.isSome ↔
      ∀ name v, (name, .value v) ∈ bindings → v.depth ≤ nestingLimit := by
  induction bindings generalizing b with
  | nil =>
    obtain ⟨objects, b₁, hobjects, -⟩ := s.bindScope_fixedBindings b
    simp [hobjects]
  | cons e rest ih =>
    obtain ⟨name, v⟩ := e
    have hcross : (s.bindScope ((name, v) :: (rest ++ s.fixedBindings)) b).1.isSome ↔
        (∃ d, s.crossing v b = .ok d) ∧ ∀ name v, (name, .value v) ∈ rest → v.depth ≤ nestingLimit := by
      rw [bindScope_cons]
      cases s.crossing v b with
      | error e => simp
      | ok d => simpa using ih _
    rw [List.cons_append, hcross]
    cases v with
    | value v =>
      rw [crossing_value]
      constructor
      · rintro ⟨hv, hrest⟩ name' v' hmem
        rcases List.mem_cons.mp hmem with heq | hmem
        · cases heq
          exact hv
        · exact hrest name' v' hmem
      · intro h
        exact ⟨h name v List.mem_cons_self, fun name' v' hmem => h name' v' (List.mem_cons_of_mem _ hmem)⟩
    | object o =>
      constructor
      · rintro ⟨-, hrest⟩ name' v' hmem
        exact hrest name' v' ((List.mem_cons.mp hmem).resolve_left (by simp))
      · intro h
        exact ⟨crossing_object o b, fun name' v' hmem => h name' v' (List.mem_cons_of_mem _ hmem)⟩

/-- Whatever is bound before it, the callback object's name stands for its handle. -/
theorem exposed_of_bindScope {name : String} {o : ObjectRef κ} (hcallback : s.callback = some (name, o))
    {bindings : List (String × HostValue κ)}
    (hscope : s.bindScope (bindings ++ s.fixedBindings) b = (some scope, b₁)) :
    ∃ h, Assoc.last? name scope = some (.handle h) ∧ b₁.handles.find? h = some o := by
  induction bindings generalizing b scope with
  | nil =>
    obtain ⟨objects, b₂, hobjects, hshows⟩ := s.bindScope_fixedBindings b
    rw [List.nil_append, hobjects] at hscope
    cases hscope
    exact hshows.exposed name o hcallback
  | cons e rest ih =>
    obtain ⟨name', v⟩ := e
    rw [List.cons_append, bindScope_cons] at hscope
    cases hcross : s.crossing v b with
    | error e =>
      rw [hcross] at hscope
      cases hscope
    | ok d =>
      rw [hcross] at hscope
      obtain ⟨hfirst, hstate⟩ := Prod.mk.inj hscope
      obtain ⟨scope', hscope', rfl⟩ := Option.map_eq_some_iff.mp hfirst
      obtain ⟨h, hlast, hfound⟩ := ih (Prod.ext hscope' hstate)
      refine ⟨h, ?_, hfound⟩
      rw [Assoc.last?_cons, hlast, Option.some_or]

/-! ### A program that is the name alone -/

/-- The status of the program that is a name alone.  A word of the language may be a whole statement, a
    value or a way out; everything else that is not a name does not parse. -/
def nameStatus (name : String) : Status :=
  if Vocabulary.isFunctionName name then .ok
  else if name ∈ ["true", "false", "return"] then .ok
  else if name = "throw" then .runtimeError
  else .parseError

theorem nameStatus_eq (name : String) :
    nameStatus name =
      match Vocabulary.standing? name with
      | some true => .ok
      | some false => .runtimeError
      | none => .parseError := by
  unfold nameStatus Vocabulary.standing?
  split_ifs <;> rfl

/-- What the name of the callback object stands for in a scope: the object's handle if scripts can use
    the name, and otherwise no handle. -/
def Exposes (name : String) (o : ObjectRef κ) (scope : Scope) (b : BridgeState σ η κ) : Prop :=
  ∃ h, b.handles.find? h = some o ∧
    (Vocabulary.isFunctionName name = true → Denotes scope name (.handle h)) ∧
    (Vocabulary.isFunctionName name = false → ∀ h', ¬ Denotes scope name (.handle h'))

theorem exposes_of_bindScope {name : String} {o : ObjectRef κ} (hcallback : s.callback = some (name, o))
    (hspelled : Vocabulary.Spelled name) {bindings : List (String × HostValue κ)}
    (hscope : s.bindScope (bindings ++ s.fixedBindings) b = (some scope, b₁)) :
    Exposes name o scope b₁ := by
  obtain ⟨h, hlast, hfound⟩ := exposed_of_bindScope hcallback hscope
  exact ⟨h, hfound, fun hname => denotes_of_free hspelled hname hlast,
    fun hname => not_denotes_handle hspelled hname scope⟩

theorem evaluateOver_name {name : String} {o : ObjectRef κ} (hengine : s.engine = scriptLanguage)
    (hcallback : s.callback = some (name, o)) (hspelled : Vocabulary.Spelled name)
    {program : Program} (hdecode : program.decode = .ok (name ++ ";"))
    {bindings : List (String × HostValue κ)}
    (hscope : s.bindScope (bindings ++ s.fixedBindings) b.openScope.2 = (some scope, b₁))
    (inner : Reentry σ η κ) (running : List (ObjectRef κ)) :
    s.evaluateOver inner running program bindings b =
      (nameStatus name, b₁.closeScope b.openScope.1) := by
  obtain ⟨h, hlast, -⟩ := exposed_of_bindScope hcallback hscope
  have hstart := start_word hspelled hlast ⟨b₁.classes.all⟩
  rw [← hengine] at hstart
  simp only [evaluateOver, hdecode, runSource, hscope, hstart, nameStatus_eq]
  cases Vocabulary.standing? name with
  | none => rfl
  | some completed => cases completed <;> rfl

end Setting

/-! ### Bridges -/

namespace Bridge

/-- How a bridge with a callback object is started: the name is looked at before anything is made. -/
theorem start_cases (platform : Platform σ) (host : Host η κ) (engine : Engine) (layout : LayoutConfig)
    (o : ObjectRef κ) (given : Option String) (p : σ) (h : η) (counters : Counters) :
    let name := given.getD defaultExposedName
    let started := start platform host engine layout (some o) given p h counters
    (started = .error (.invalidExposedName name) ∧ ¬ Vocabulary.Spelled name) ∨
    (started = .error (.reservedName name) ∧ name ∈ reservedNames) ∨
    (started = .ok ⟨⟨platform, host, engine, layout, some (name, o)⟩, .initial p h counters⟩ ∧
      Vocabulary.Spelled name ∧ name ∉ reservedNames) := by
  intro name started
  rcases checkExposedName_cases (given.getD defaultExposedName) with
    ⟨hcheck, hname⟩ | ⟨hcheck, hname⟩ | ⟨hcheck, hname⟩
  · exact Or.inl ⟨by simp only [started, start, hcheck, name], hname⟩
  · exact Or.inr (Or.inl ⟨by simp only [started, start, hcheck, name], hname⟩)
  · exact Or.inr (Or.inr ⟨by simp only [started, start, hcheck, name], hname⟩)

variable [DecidableEq κ]

/-- The name of a callback object, from the start of its bridge to its use.  A name that is no identifier
    and a name of the dispatch scope are refused before there is a bridge; any other name is accepted.
    On a bridge that was started, in any state and under any bindings, a program that is the name alone
    runs whenever the bindings can be put in scope.  If the name is one that the language has for
    variables, the program ends with status 0 and the name stands for the callback object's handle, in
    evaluations and in dispatches.  If not, the name stands for no handle, and the program does not parse,
    unless the name is a word of the language that is a whole statement. -/
theorem exposed_name (platform : Platform σ) (host : Host η κ) (layout : LayoutConfig) (o : ObjectRef κ)
    (given : Option String) (p : σ) (h : η) (counters : Counters) :
    let name := given.getD defaultExposedName
    let started := start platform host scriptLanguage layout (some o) given p h counters
    (started = .error (.invalidExposedName name) ↔ ¬ Vocabulary.Spelled name) ∧
    (started = .error (.reservedName name) ↔ name ∈ reservedNames) ∧
    ((∃ bridge, started = .ok bridge) ↔ Vocabulary.Spelled name ∧ name ∉ reservedNames) ∧
    ∀ bridge, started = .ok bridge →
      let s := bridge.setting
      ∀ (b : BridgeState σ η κ) (program : Program), program.decode = .ok (name ++ ";") →
        ∀ (n : Nat) (running : List (ObjectRef κ)),
          (∀ bindings,
            ((s.bindScope (bindings ++ s.fixedBindings) b.openScope.2).1.isSome ↔
              ∀ name v, (name, .value v) ∈ bindings → v.depth ≤ nestingLimit) ∧
            ∀ scope b₁, s.bindScope (bindings ++ s.fixedBindings) b.openScope.2 = (some scope, b₁) →
              Setting.Exposes name o scope b₁ ∧
              (s.level (n + 1)).evaluate running program bindings b =
                (Setting.nameStatus name, b₁.closeScope b.openScope.1)) ∧
          (∀ id binding event, b.callbacks.find? id = some binding → binding.logic = program →
            ∀ scope b₁, s.logicScope binding event b = (some scope, b₁) →
              Setting.Exposes name o scope b₁ ∧
              Setting.dispatchBy ((s.level (n + 1)).evaluate running) id event b =
                (some (Setting.nameStatus name), b₁.closeScope b.openScope.1)) ∧
          (Vocabulary.isFunctionName name = true → Setting.nameStatus name = .ok) := by
  intro name started
  have hcases : _ ∨ _ ∨ _ := start_cases platform host scriptLanguage layout o given p h counters
  have hreserved : name ∈ reservedNames → Vocabulary.Spelled name := spelled_of_reserved
  refine ⟨?invalid, ?reserved, ?accepted, ?used⟩
  case invalid =>
    rcases hcases with ⟨hstart, hname⟩ | ⟨hstart, hname⟩ | ⟨hstart, hname, -⟩
    · exact iff_of_true hstart hname
    · exact iff_of_false (by simp [started, hstart]) (not_not.mpr (hreserved hname))
    · exact iff_of_false (by simp [started, hstart]) (not_not.mpr hname)
  case reserved =>
    rcases hcases with ⟨hstart, hname⟩ | ⟨hstart, hname⟩ | ⟨hstart, -, hname⟩
    · exact iff_of_false (by simp [started, hstart]) fun hmem => hname (hreserved hmem)
    · exact iff_of_true hstart hname
    · exact iff_of_false (by simp [started, hstart]) hname
  case accepted =>
    rcases hcases with ⟨hstart, hname⟩ | ⟨hstart, hname⟩ | ⟨hstart, hname⟩
    · exact iff_of_false (by simp [started, hstart]) fun hboth => hname hboth.1
    · exact iff_of_false (by simp [started, hstart]) fun hboth => hboth.2 hname
    · exact iff_of_true ⟨_, hstart⟩ hname
  case used =>
    intro bridge hbridge
    rcases hcases with ⟨hstart, -⟩ | ⟨hstart, -⟩ | ⟨hstart, hspelled, -⟩
    · cases hbridge.symm.trans hstart
    · cases hbridge.symm.trans hstart
    · cases hbridge.symm.trans hstart
      intro s b program hdecode n running
      have hcallback : s.callback = some (name, o) := rfl
      refine ⟨?_, ?_, fun hname => if_pos hname⟩
      · intro bindings
        refine ⟨Setting.isSome_bindScope_iff s bindings _, fun scope b₁ hscope => ⟨?_, ?_⟩⟩
        · exact Setting.exposes_of_bindScope hcallback hspelled hscope
        · exact Setting.evaluateOver_name rfl hcallback hspelled hdecode hscope _ running
      · intro id binding event hbound hlogic scope b₁ hscope
        subst hlogic
        refine ⟨Setting.exposes_of_bindScope hcallback hspelled hscope, ?_⟩
        have hevaluate := Setting.evaluateOver_name rfl hcallback hspelled hdecode hscope (s.level n)
          running
        simp only [Setting.dispatchBy, CallbackRegistry.fire, hbound, Option.map_some, Setting.level,
          hevaluate]

/-- The name `tc` is accepted; in an evaluation and in the dispatch of a widget, the program that is
    this name alone completes, and the name stands for the handle of the callback object. -/
theorem exposed_name_tc :
    let rehearsal := Setting.rehearsal
    ∃ bridge : Bridge Recorder (List (List Value)) EchoClass,
      start rehearsal.platform rehearsal.host scriptLanguage rehearsal.layout (some echoObject)
        (some "tc") .standard [] .first = .ok bridge ∧
      let s := bridge.setting
      let b := bridge.state.registerBinding ⟨1001, .nil, .source "tc;", .empty⟩
      (s.owner.evaluate [] (.source "tc;") [] b).1 = .ok ∧
      (Setting.dispatchBy (s.owner.evaluate []) 1001 .nil b).1 = some .ok ∧
      ∃ scope h b₁, s.bindScope s.fixedBindings b.openScope.2 = (some scope, b₁) ∧
        b₁.handles.find? h = some echoObject ∧ Denotes scope "tc" (.handle h) := by
  intro rehearsal
  obtain ⟨-, -, haccepted, hused⟩ := exposed_name rehearsal.platform rehearsal.host rehearsal.layout
    echoObject (some "tc") .standard [] .first
  obtain ⟨bridge, hstart⟩ := haccepted.mpr ⟨isIdentifier_iff.mp (by decide), by decide⟩
  refine ⟨bridge, hstart, ?_⟩
  intro s b
  obtain ⟨hevaluated, hdispatched, -⟩ := hused bridge hstart b (.source "tc;") rfl 255 []
  let binding : CallbackBinding := ⟨1001, .nil, .source "tc;", .empty⟩
  have hbound : b.callbacks.find? 1001 = some binding := by
    simp only [b, binding, BridgeState.registerBinding_callbacks, CallbackRegistry.find?_register, if_pos]
  obtain ⟨scope, b₁, hscope, -⟩ := s.bindScope_fixedBindings b.openScope.2
  obtain ⟨⟨h, hfound, hdenotes, -⟩, hstatus⟩ := (hevaluated []).2 scope b₁ hscope
  have hdepth : ∀ e ∈ logicEntries binding .nil, e.2.depth ≤ nestingLimit :=
    depth_logicEntries_le_iff.mpr ⟨by decide, by decide⟩
  obtain ⟨objects, b₂, -, hlogic⟩ := Setting.logicScope_of_le (s := s) hdepth b
  obtain ⟨-, hfired⟩ := hdispatched 1001 binding .nil hbound rfl _ b₂ hlogic
  have hname : Vocabulary.isFunctionName "tc" = true := by decide
  exact ⟨congrArg Prod.fst hstatus, congrArg Prod.fst hfired, scope, h, b₁, hscope, hfound,
    hdenotes hname⟩

/-- A word of the language is accepted as the name of a callback object, and the program that is this
    name alone does not even parse. -/
theorem exposed_name_let :
    let s := Setting.rehearsal
    ∃ bridge : Bridge Recorder (List (List Value)) EchoClass,
      start s.platform s.host scriptLanguage s.layout (some echoObject) (some "let") .standard [] .first =
        .ok bridge ∧
      bridge.setting.callback = some ("let", echoObject) ∧
      (bridge.evaluate (.source "let;") []).1 = .parseError := by
  intro s
  have hspelled : Vocabulary.Spelled "let" := isIdentifier_iff.mp (by decide)
  have hcheck : checkExposedName "let" = .ok () := by decide
  let bridge : Bridge Recorder (List (List Value)) EchoClass :=
    ⟨⟨s.platform, s.host, scriptLanguage, s.layout, some ("let", echoObject)⟩,
      .initial .standard [] .first⟩
  have hstart : start s.platform s.host scriptLanguage s.layout (some echoObject) (some "let") .standard []
      .first = .ok bridge := by
    simp only [start, Option.getD_some, hcheck]
    rfl
  refine ⟨bridge, hstart, rfl, ?_⟩
  obtain ⟨scope, b₁, hscope, -⟩ := bridge.setting.bindScope_fixedBindings bridge.state.openScope.2
  have hdecode : (Program.source "let;").decode = .ok ("let" ++ ";") := rfl
  have hnone : bridge.setting.bindScope ([] ++ bridge.setting.fixedBindings) bridge.state.openScope.2 =
      (some scope, b₁) := hscope
  have hevaluate := Setting.evaluateOver_name rfl rfl hspelled hdecode hnone (bridge.setting.level 255) []
  have howner : bridge.setting.owner.evaluate = bridge.setting.evaluateOver (bridge.setting.level 255) := rfl
  have hstatus : Setting.nameStatus "let" = .parseError := by decide
  simp only [evaluate, howner, hevaluate, hstatus]

end Bridge
end ScriptBridge
