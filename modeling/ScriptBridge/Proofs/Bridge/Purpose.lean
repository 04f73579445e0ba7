/-
  ScriptBridge/Proofs/Bridge/Purpose.lean
  =======================================
  **What the calls of a script have to do with widget ids.**

  A call may make a widget, render a description, or tell which widget is meant;
  all other calls have nothing to do with ids.  Its `Purpose` is read off the
  name of the method.  Where ids go in or come out is in one place of each call:
  the first argument is a context or a target, and the result is a handle or the
  names of a render.

  `Operands` relates the arguments of two calls whose ids correspond, `Results`
  and `Causes` what they answer; two bridges in related states answer such calls
  alike (`States.invokeOver`).
-/
import ScriptBridge.Proofs.Bridge.Refusal
import ScriptBridge.Proofs.Bridge.Shift
import ScriptBridge.Proofs.Class.Resolution

namespace ScriptBridge

/-- What a call has to do with widget ids. -/
inductive Purpose where
  /-- Makes a widget, from a context. -/
  | widget
  /-- Renders a description, from a context. -/
  | tree
  /-- Changes the widget that is meant. -/
  | target
  | other
deriving DecidableEq

def SystemMethod.purpose : SystemMethod → Purpose
  | .button | .label | .input | .table => .widget
  | .ui => .tree
  | .uiSet | .uiPut => .target
  | .read | .window | .log => .other

/-- A method that is about ids takes any value first, and a fixed number of arguments. -/
theorem SystemMethod.exists_params {m : SystemMethod} (hm : m.purpose ≠ .other) :
    ∃ kinds, m.declaration.params = .any :: kinds ∧ m.declaration.rest = none := by
  cases m <;> first | exact ⟨_, rfl, rfl⟩ | exact absurd rfl hm

theorem SystemMethod.declaration_of_resolve? {m : SystemMethod} {arity index : Nat} {d : MethodDecl}
    (h : systemTable.resolve? m.declaration.name arity = some (d, index)) : d = m.declaration := by
  obtain ⟨hmem, hname⟩ := MethodTable.mem_of_resolve? h
  obtain ⟨m', -, rfl⟩ := List.mem_map.mp hmem
  rw [SystemMethod.eq_of_name_eq hname]

/-- The purpose of a method call by its name. -/
def Purpose.ofName (name : String) : Purpose :=
  ((SystemMethod.all.find? fun m => m.declaration.name == name).map SystemMethod.purpose).getD .other

/-- The purpose of a call of a function of the bridge. -/
def Native.purpose (native : Native) (args : List Data) : Purpose :=
  match native.methodCall? args with
  | some (_, name, _) => .ofName name
  | none =>
    match native with
    | .ui => .tree
    | .uiSet => .target
    | _ => .other

@[simp] theorem Purpose.ofName_name (m : SystemMethod) : ofName m.declaration.name = m.purpose := by
  cases m <;> rfl

theorem Purpose.exists_method {name : String} (h : ofName name ≠ .other) :
    ∃ m : SystemMethod, m.declaration.name = name := by
  unfold ofName at h
  cases hfound : SystemMethod.all.find? fun m => m.declaration.name == name with
  | none =>
    rw [hfound] at h
    exact absurd rfl h
  | some m => exact ⟨m, by simpa using List.find?_some hfound⟩

/-- No method of the listening host is about ids. -/
theorem Purpose.resolve?_echo {name : String} (h : ofName name ≠ .other) (arity : Nat) :
    Echo.table.resolve? name arity = none := by
  cases hresolve : Echo.table.resolve? name arity with
  | none => rfl
  | some found =>
    obtain ⟨hmem, rfl⟩ := MethodTable.mem_of_resolve? hresolve
    obtain ⟨method, -, hmethod⟩ := List.mem_map.mp hmem
    rw [← hmethod] at h
    cases method <;> exact absurd rfl h

/-- The platform only records, and the host only listens. -/
structure Setting.Records (s : Setting Recorder (List (List Value)) EchoClass) (files : FileTree) :
    Prop where
  platform : s.platform = Recorder.platform files
  host : s.host = echoHost

theorem Setting.Records.tableOf_echo {s : Setting Recorder (List (List Value)) EchoClass}
    {files : FileTree} (hs : s.Records files) (number : Nat) :
    s.tableOf (.host .echo number) = Echo.table := by
  change (s.host.classes.describe .echo).table = Echo.table
  rw [hs.host]
  rfl

namespace Pairing

variable (P : Pairing)

/-! ### Arguments and results -/

def Heads : Purpose → Value → Value → Prop
  | .widget | .tree => P.contexts
  | .target => P.Targets
  | .other => Eq

/-- The arguments of two calls correspond. -/
inductive Operands (purpose : Purpose) : List Value → List Value → Prop where
  | nil : Operands purpose [] []
  | cons {u v : Value} (h : P.Heads purpose u v) (rest : List Value) :
      Operands purpose (u :: rest) (v :: rest)

/-- The results of two calls correspond.  A call that has nothing to do with ids answers the same. -/
def Results : Purpose → Value → Value → Prop
  | .widget => fun u v => ∃ h : WidgetHandle, u = h.toTriple ∧ v = (P.moveHandle h).toTriple
  | .tree => fun u v => ∃ o : RenderOutput, u = o.toValue ∧ v = (P.moveOutput o).toValue
  | .target | .other => Eq

/-- The errors of two calls correspond. -/
def Causes : Purpose → BridgeError → BridgeError → Prop
  | .other => Eq
  | _ => P.Errors

theorem causes_same (purpose : Purpose) (e : BridgeError) : P.Causes purpose e e := by
  cases purpose with
  | other => rfl
  | _ => exact .same e

/-- Two calls on an object answer alike, or the handle of the object is not live and both say so. -/
inductive Called (purpose : Purpose) (b : RecordingState) (handle : ObjectHandle) :
    Except BridgeError Value → Except BridgeError Value → Prop where
  | answered {r r' : Except BridgeError Value} (h : Outcomes (P.Causes purpose) (P.Results purpose) r r') :
      Called purpose b handle r r'
  | stale (hgone : b.handles.find? handle = none) :
      Called purpose b handle (.error (.staleHandle handle))
        (.error (.staleHandle (P.moveObject handle)))

/-- The failures of two methods are told in corresponding ways. -/
def Faults (purpose : Purpose) (e e' : HostError) : Prop :=
  ∀ (t : MethodTable) (name : String), P.Causes purpose (t.failure name e) (t.failure name e')

variable {P} {purpose : Purpose}

theorem Operands.eq_of_other {values values' : List Value} (h : P.Operands .other values values') :
    values = values' := by
  cases h with
  | nil => rfl
  | cons huv rest => rw [huv]

theorem operands_same (values : List Value) : P.Operands .other values values := by
  cases values with
  | nil => exact .nil
  | cons v rest => exact .cons (show P.Heads .other v v from rfl) rest

theorem Operands.length_eq {values values' : List Value} (h : P.Operands purpose values values') :
    values'.length = values.length := by
  cases h <;> rfl

theorem outcomes_same (r : Except BridgeError Value) : Outcomes (P.Causes .other) (P.Results .other) r r := by
  cases r with
  | ok v => exact .ok rfl
  | error e => exact .error rfl

/-! ### Methods of the system object -/

theorem faults_same (e : HostError) : P.Faults purpose e e := fun _ _ => P.causes_same purpose _

/-- The plan of a widget does not depend on the context. -/
theorem widgetArgs_cons (kind : WidgetKind) (rest : List Value) :
    ∃ plan : Except HostError WidgetPlan, ∀ context,
      widgetArgs kind ⟨context :: rest⟩ = plan.map fun plan => (context, plan) := by
  -- An argument after the first is read the same way, whatever the first is.
  have hvalue : ∀ (context : Value) (i : Nat),
      (Args.mk (context :: rest)).value (i + 1) = (Args.mk (.nil :: rest)).value (i + 1) := by
    simp [Args.value]
  have hpoint : ∀ context, pointArgs ⟨context :: rest⟩ 1 = pointArgs ⟨.nil :: rest⟩ 1 := fun _ => rfl
  have hframe : ∀ context, frameArgs ⟨context :: rest⟩ 1 = frameArgs ⟨.nil :: rest⟩ 1 := fun _ => rfl
  have himage : ∀ context, (Args.mk (context :: rest)).string? 7 = (Args.mk (.nil :: rest)).string? 7 :=
    fun _ => rfl
  have hlist : ∀ context, (Args.mk (context :: rest)).list 5 = (Args.mk (.nil :: rest)).list 5 :=
    fun _ => rfl
  have hcontext : ∀ context, (Args.mk (context :: rest)).value 0 = .ok context := fun _ => rfl
  refine ⟨(widgetArgs kind ⟨.nil :: rest⟩).map Prod.snd, fun context => ?_⟩
  cases kind with
  | button =>
    simp only [widgetArgs, hframe context, hvalue context, himage context, hcontext]
    cases onArgs (frameArgs ⟨.nil :: rest⟩ 1) <;> try rfl
    cases onArgs ((Args.mk (.nil :: rest)).value 6) <;> try rfl
    cases onArgs ((Args.mk (.nil :: rest)).string? 7) <;> try rfl
    cases onArgs ((Args.mk (.nil :: rest)).value 5) with
    | error e => rfl
    | ok v =>
      dsimp only [onArgs, Except.mapError, bind, Except.bind]
      cases logicOf v <;> rfl
  | label =>
    simp only [widgetArgs, hpoint context, hvalue context, hcontext]
    cases onArgs (pointArgs ⟨.nil :: rest⟩ 1) <;> try rfl
    cases onArgs ((Args.mk (.nil :: rest)).value 3) <;> rfl
  | input =>
    simp only [widgetArgs, hpoint context, hcontext]
    cases onArgs (pointArgs ⟨.nil :: rest⟩ 1) <;> rfl
  | table =>
    simp only [widgetArgs, hframe context, hvalue context, hlist context, hcontext]
    cases onArgs (frameArgs ⟨.nil :: rest⟩ 1) <;> try rfl
    cases onArgs ((Args.mk (.nil :: rest)).list 5) <;> try rfl
    cases onArgs ((Args.mk (.nil :: rest)).value 6) with
    | error e => rfl
    | ok v =>
      dsimp only [onArgs, Except.mapError, bind, Except.bind]
      cases logicOf v <;> rfl

theorem ends_systemResult {α : Type} {f : α → Value} {R : α → α → Prop}
    {x x' : Except BridgeError α × RecordingState} (hpurpose : purpose ≠ .other)
    (h : P.Ends P.Errors R x x') (hf : ∀ {a a'}, R a a' → P.Results purpose (f a) (f a')) :
    P.Ends (P.Faults purpose) (P.Results purpose) (BridgeState.systemResult f x)
      (BridgeState.systemResult f x') := by
  obtain ⟨result, b⟩ := x
  obtain ⟨result', b'⟩ := x'
  obtain ⟨ha | he, hstates⟩ := h
  · exact ⟨.ok (hf ha), hstates⟩
  · refine ⟨.error fun t name => ?_, hstates⟩
    cases purpose with
    | other => exact absurd rfl hpurpose
    | _ => exact he

variable {b b' : RecordingState} (h : P.States b b') (files : FileTree)

include h

theorem States.systemWidget (kind : WidgetKind) {args args' : List Value}
    (hargs : P.Operands .widget args args') :
    P.Ends (P.Faults .widget) (P.Results .widget)
      (b.systemWidget (Recorder.platform files) kind ⟨args⟩)
      (b'.systemWidget (Recorder.platform files) kind ⟨args'⟩) := by
  cases hargs with
  | nil => cases kind <;> exact ⟨.error (faults_same _), h⟩
  | @cons u v huv rest =>
    obtain ⟨plan, hplan⟩ := widgetArgs_cons kind rest
    unfold BridgeState.systemWidget
    rw [hplan u, hplan v]
    cases plan with
    | error e => exact ⟨.error (faults_same e), h⟩
    | ok plan =>
      exact ends_systemResult (by simp) (h.buildAlone files huv plan) fun hmoved =>
        ⟨_, rfl, by rw [hmoved]⟩

/-- The methods that have nothing to do with ids, with the same arguments. -/
theorem States.systemOther (layout : LayoutConfig) {method : SystemMethod}
    (hmethod : method.purpose = .other) (args : Args) :
    P.Ends (P.Faults .other) (P.Results .other)
      (b.systemCall (Recorder.platform files) layout method args)
      (b'.systemCall (Recorder.platform files) layout method args) := by
  cases method with
  | read =>
    simp only [BridgeState.systemCall]
    cases args.string 0 with
    | error e => exact ⟨.error (faults_same _), h⟩
    | ok path =>
      obtain ⟨hanswer, hrecorders⟩ := h.platform.read files path
      dsimp only
      rw [hanswer]
      exact ⟨.ok rfl, h.recordIn hrecorders⟩
  | window =>
    simp only [BridgeState.systemCall]
    cases pointArgs args 0 with
    | error e => exact ⟨.error (faults_same _), h⟩
    | ok asked =>
      obtain ⟨hanswer, hrecorders⟩ := h.platform.askWindow files asked.x asked.y
      dsimp only
      rw [hanswer]
      exact ⟨.ok rfl, h.recordIn hrecorders⟩
  | log =>
    simp only [BridgeState.systemCall]
    cases args.list 0 with
    | error e => exact ⟨.error (faults_same _), h⟩
    | ok items => exact ⟨.ok rfl, h.recordIn (h.platform.print files _)⟩
  | _ => cases hmethod

theorem States.systemCall (hcounted : P.Counted b b') (layout : LayoutConfig) (method : SystemMethod)
    {args args' : List Value} (hargs : P.Operands method.purpose args args') :
    P.Ends (P.Faults method.purpose) (P.Results method.purpose)
      (b.systemCall (Recorder.platform files) layout method ⟨args⟩)
      (b'.systemCall (Recorder.platform files) layout method ⟨args'⟩) := by
  cases method with
  | button => exact h.systemWidget files .button hargs
  | label => exact h.systemWidget files .label hargs
  | input => exact h.systemWidget files .input hargs
  | table => exact h.systemWidget files .table hargs
  | ui =>
    cases hargs with
    | nil => exact ⟨.error (faults_same _), h⟩
    | @cons u v huv rest =>
      have hcontext : ∀ w, (Args.mk (w :: rest)).value 0 = .ok w := fun _ => rfl
      have hother : (Args.mk (v :: rest)).value 1 = (Args.mk (u :: rest)).value 1 := rfl
      simp only [BridgeState.systemCall, hcontext, hother]
      cases (Args.mk (u :: rest)).value 1 with
      | error e => exact ⟨.error (faults_same _), h⟩
      | ok description =>
        exact ends_systemResult (by simp [SystemMethod.purpose])
          (h.render files huv layout description) fun hmoved => ⟨_, rfl, by rw [hmoved]⟩
  | uiSet =>
    cases hargs with
    | nil => exact ⟨.error (faults_same _), h⟩
    | @cons u v huv rest =>
      have htarget : ∀ w, (Args.mk (w :: rest)).value 0 = .ok w := fun _ => rfl
      have hother : (Args.mk (v :: rest)).value 1 = (Args.mk (u :: rest)).value 1 := rfl
      simp only [BridgeState.systemCall, htarget, hother]
      cases (Args.mk (u :: rest)).value 1 with
      | error e => exact ⟨.error (faults_same _), h⟩
      | ok text => exact ⟨.ok rfl, h.setText files hcounted huv text⟩
  | uiPut =>
    cases hargs with
    | nil => exact ⟨.error (faults_same _), h⟩
    | @cons u v huv rest =>
      have htarget : ∀ w, (Args.mk (w :: rest)).value 0 = .ok w := fun _ => rfl
      have hother : frameArgs ⟨v :: rest⟩ 1 = frameArgs ⟨u :: rest⟩ 1 := rfl
      simp only [BridgeState.systemCall, htarget, hother]
      cases frameArgs ⟨u :: rest⟩ 1 with
      | error e => exact ⟨.error (faults_same _), h⟩
      | ok frame =>
        exact ends_systemResult (by simp [SystemMethod.purpose]) (h.put files hcounted huv frame)
          fun _ => rfl
  | _ =>
    obtain rfl := hargs.eq_of_other
    exact h.systemOther files layout rfl ⟨args⟩

omit h

/-! ### Calls of methods -/

/-- A first parameter that takes any value receives the first argument as it is. -/
theorem bind_operands {m : MethodDecl} {kinds : List ParamKind} (hparams : m.params = .any :: kinds)
    (hrest : m.rest = none) {values values' : List Value} (h : P.Operands purpose values values') :
    Outcomes Eq (fun args args' : Args => P.Operands purpose args.values args'.values)
      (m.bind values) (m.bind values') := by
  unfold MethodDecl.bind
  rw [hparams, hrest]
  cases h with
  | nil => exact .error rfl
  | cons huv rest =>
    simp only [MethodDecl.bindParams, ParamKind.coerce]
    cases MethodDecl.bindParams 1 kinds rest with
    | error e => exact .error rfl
    | ok bound => exact .ok (.cons huv bound.1)

/-- Two calls by one name with corresponding arguments mean the same method. -/
theorem select_operands (m : SystemMethod) {values values' : List Value}
    (h : P.Operands m.purpose values values') :
    Outcomes Eq (fun x y : Nat × Args => y.1 = x.1 ∧ P.Operands m.purpose x.2.values y.2.values)
      (systemTable.select m.declaration.name values)
      (systemTable.select m.declaration.name values') := by
  unfold MethodTable.select
  rw [h.length_eq]
  cases hresolve : systemTable.resolve? m.declaration.name values.length with
  | none => exact .error rfl
  | some found =>
    obtain ⟨d, index⟩ := found
    obtain rfl := SystemMethod.declaration_of_resolve? hresolve
    dsimp only
    by_cases hpurpose : m.purpose = .other
    · rw [hpurpose] at h ⊢
      obtain rfl := h.eq_of_other
      cases m.declaration.bind values with
      | error e => exact .error rfl
      | ok args => exact .ok ⟨rfl, operands_same args.values⟩
    · obtain ⟨kinds, hparams, hrest⟩ := SystemMethod.exists_params hpurpose
      have hbound := bind_operands hparams hrest h
      revert hbound
      generalize m.declaration.bind values = bound
      generalize m.declaration.bind values' = bound'
      rintro (hargs | rfl)
      · exact .ok ⟨rfl, hargs⟩
      · exact .error rfl

/-- The listening object answers with plain data, the same in both runs. -/
theorem States.runEcho (h : P.States b b') (inner : Reentry Recorder (List (List Value)) EchoClass)
    (running : List (ObjectRef EchoClass)) (number index : Nat) (args : Args) :
    let run := (echoHost.run .echo number index args).run (Setting.serveHost inner running)
    ∃ outcome : Except HostError Value, (run b).1.toExcept = outcome.map .value ∧
      (run b').1.toExcept = outcome.map .value ∧ P.States (run b).2 (run b').2 := by
  simp only [echoHost, Echo.run]
  cases EchoMethod.all[index]? with
  | none => exact ⟨.error _, rfl, rfl, h⟩
  | some method =>
    cases method with
    | y => exact ⟨.ok _, rfl, rfl, h⟩
    | z =>
      simp only [Echo.runMethod]
      cases args.list 0 with
      | ok items => exact ⟨.ok _, rfl, rfl, h⟩
      | error e => exact ⟨.error _, rfl, rfl, h⟩
    | callback =>
      simp only [Echo.runMethod]
      cases args.list 0 with
      | error e => exact ⟨.error _, rfl, rfl, h⟩
      | ok items =>
        refine ⟨.ok _, rfl, rfl, { h with host := ?_ }⟩
        change b'.host ++ [items] = P.heard ++ (b.host ++ [items])
        rw [h.host, List.append_assoc]

theorem States.ends_call (h : P.States b b') {t : MethodTable} {name : String}
    {values values' : List Value} {α : Type} {R : α → α → Prop}
    {run : Nat → Args → RecordingState → Except HostError α × RecordingState}
    (hselect : Outcomes Eq
      (fun x y => P.Ends (P.Faults purpose) R (run x.1 x.2 b) (run y.1 y.2 b'))
      (t.select name values) (t.select name values')) :
    P.Ends (P.Causes purpose) R (t.call name values run b) (t.call name values' run b') := by
  unfold MethodTable.call
  revert hselect
  generalize t.select name values = x
  generalize t.select name values' = y
  rintro (hrun | rfl)
  · rename_i selected selected'
    obtain ⟨index, args⟩ := selected
    obtain ⟨index', args'⟩ := selected'
    revert hrun
    dsimp only
    generalize run index args b = ran
    generalize run index' args' b' = ran'
    obtain ⟨result, b₁⟩ := ran
    obtain ⟨result', b₁'⟩ := ran'
    rintro ⟨hv | he, hstates⟩
    · exact ⟨.ok hv, hstates⟩
    · exact ⟨.error (he t name), hstates⟩
  · exact ⟨.error (P.causes_same _ _), h⟩

/-- Both methods hand over plain data that corresponds. -/
def Handed (purpose : Purpose) (x y : HostValue EchoClass) : Prop :=
  ∃ u v, x = .value u ∧ y = .value v ∧ P.Results purpose u v

variable {s : Setting Recorder (List (List Value)) EchoClass} {files : FileTree} (hs : s.Records files)
  (inner : Reentry Recorder (List (List Value)) EchoClass) (running : List (ObjectRef EchoClass))

include hs

theorem States.invokeSystem (h : P.States b b') (hcounted : P.Counted b b') (name : String)
    {values values' : List Value} (hvalues : P.Operands (.ofName name) values values') :
    P.Ends (P.Causes (.ofName name)) (P.Handed (.ofName name))
      (systemTable.call name values (s.runMethod inner running .system) b)
      (systemTable.call name values' (s.runMethod inner running .system) b') := by
  apply h.ends_call
  by_cases hname : ∃ m : SystemMethod, m.declaration.name = name
  · obtain ⟨m, rfl⟩ := hname
    rw [Purpose.ofName_name] at hvalues ⊢
    have hselect := select_operands m hvalues
    revert hselect
    generalize hx : systemTable.select m.declaration.name values = x
    generalize systemTable.select m.declaration.name values' = y
    rintro (⟨hindex, hargs⟩ | rfl)
    · rename_i selected selected'
      obtain ⟨index, ⟨args⟩⟩ := selected
      obtain ⟨index', ⟨args'⟩⟩ := selected'
      obtain rfl : index' = index := hindex
      apply Outcomes.ok
      have hmethod : SystemMethod.all[index']? = some m := SystemMethod.eq_of_select hx
      have hcall := h.systemCall files hcounted s.layout m hargs
      simp only [Setting.runMethod, hmethod, hs.platform]
      revert hcall
      generalize b.systemCall _ s.layout m ⟨args⟩ = called
      generalize b'.systemCall _ s.layout m ⟨args'⟩ = called'
      obtain ⟨result, b₁⟩ := called
      obtain ⟨result', b₁'⟩ := called'
      rintro ⟨hv | he, hstates⟩
      · exact ⟨.ok ⟨_, _, rfl, rfl, hv⟩, hstates⟩
      · exact ⟨.error he, hstates⟩
    · exact .error rfl
  · have hother : Purpose.ofName name = .other :=
      Decidable.byContradiction fun hpurpose => hname (Purpose.exists_method hpurpose)
    rw [hother] at hvalues
    obtain rfl := hvalues.eq_of_other
    cases hselect : systemTable.select name values with
    | error e => exact .error rfl
    | ok selected =>
      obtain ⟨index, args⟩ := selected
      obtain ⟨d, hd, hdname⟩ := MethodTable.name_of_select hselect
      obtain ⟨m, -, rfl⟩ := List.mem_map.mp (List.mem_of_getElem? hd)
      exact absurd ⟨m, hdname⟩ hname

theorem States.invokeEcho (h : P.States b b') (number : Nat) (name : String)
    {values values' : List Value} (hvalues : P.Operands (.ofName name) values values') :
    P.Ends (P.Causes (.ofName name)) (P.Handed (.ofName name))
      (Echo.table.call name values (s.runMethod inner running (.host .echo number)) b)
      (Echo.table.call name values' (s.runMethod inner running (.host .echo number)) b') := by
  apply h.ends_call
  by_cases hother : Purpose.ofName name = .other
  · rw [hother] at hvalues ⊢
    obtain rfl := hvalues.eq_of_other
    cases Echo.table.select name values with
    | error e => exact .error rfl
    | ok selected =>
      apply Outcomes.ok
      unfold Setting.runMethod
      dsimp only
      by_cases hrunning : running.contains (ObjectRef.host EchoClass.echo number)
      · rw [if_pos hrunning, if_pos hrunning]
        exact ⟨.error (faults_same _), h⟩
      · rw [if_neg hrunning, if_neg hrunning]
        obtain ⟨outcome, hfirst, hsecond, hstates⟩ := h.runEcho inner
          (.host .echo number :: running) number selected.1 selected.2
        rw [hs.host, hfirst, hsecond]
        refine ⟨?_, hstates⟩
        cases outcome with
        | ok v => exact .ok ⟨v, v, rfl, rfl, rfl⟩
        | error e => exact .error (faults_same e)
  · unfold MethodTable.select
    rw [hvalues.length_eq, Purpose.resolve?_echo hother]
    exact .error rfl

/-- A call on corresponding bridges with corresponding arguments. -/
theorem States.invokeOver (h : P.States b b') (hcounted : P.Counted b b') (handle : ObjectHandle)
    (name : String) {values values' : List Value}
    (hvalues : P.Operands (.ofName name) values values') :
    let called := s.invokeOver inner running handle name values b
    let called' := s.invokeOver inner running (P.moveObject handle) name values' b'
    P.Called (.ofName name) b handle called.1 called'.1 ∧ P.States called.2 called'.2 := by
  cases hobject : b.handles.find? handle with
  | none =>
    have hobject' : b'.handles.find? (P.moveObject handle) = none := by
      rw [h.handles, P.find?_moveTable, hobject]
    simp only [Setting.invokeOver, hobject, hobject']
    exact ⟨.stale hobject, h⟩
  | some o =>
    have hobject' : b'.handles.find? (P.moveObject handle) = some o := by
      rw [h.handles, P.find?_moveTable, hobject]
    have hcall : P.Ends (P.Causes (.ofName name)) (P.Handed (.ofName name))
        ((s.tableOf o).call name values (s.runMethod inner running o) b)
        ((s.tableOf o).call name values' (s.runMethod inner running o) b') := by
      cases o with
      | system => exact h.invokeSystem hs inner running hcounted name hvalues
      | host k number =>
        cases k
        rw [hs.tableOf_echo]
        exact h.invokeEcho hs inner running number name hvalues
    simp only [Setting.invokeOver, hobject, hobject']
    revert hcall
    generalize (s.tableOf o).call name values _ b = called
    generalize (s.tableOf o).call name values' _ b' = called'
    obtain ⟨result, b₁⟩ := called
    obtain ⟨result', b₁'⟩ := called'
    rintro ⟨⟨u, v, rfl, rfl, huv⟩ | he, hstates⟩
    · exact ⟨.answered (.ok huv), hstates⟩
    · exact ⟨.answered (.error he), hstates⟩

end Pairing
end ScriptBridge
