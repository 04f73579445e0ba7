/-
  ScriptBridge/Proofs/Bridge/Alike.lean
  =====================================
  **Scripts that treat widget ids and handles as opaque, and what their runs
  show.**

  A script gets widget ids from the widgets that it makes, from the names of a
  render and from the texts of errors.  It may hand them back as targets or keep
  them in contexts, and call methods on its handles.  Two scripts are `Alike` on a
  bridge when they do the same up to that: whatever the first asks on its way, the
  second asks the corresponding thing, and on every bridge in a corresponding
  state both go on alike from the replies that they get there.

  Alike scripts lead from related states to related states.  The induction is on
  the pair of scripts, and each request is answered alike by `States.callNative`.
  That both runs count upwards is only known of the end; it holds all the way
  because no record is ever lost.
-/
import ScriptBridge.Proofs.Bridge.DispatchScope
import ScriptBridge.Proofs.Bridge.Purpose

namespace ScriptBridge

namespace Setting

variable {σ η κ : Type} (s : Setting σ η κ)

/-- The objects that every scope has, under the handles that follow each other from a number on. -/
def objectScope (n : Nat) : Scope :=
  ("sys", .handle ⟨n⟩) ::
    match s.callback with
    | some (name, _) => [(name, .handle ⟨n + 1⟩)]
    | none => []

variable [DecidableEq κ]

/-- The scope of a program that the owner of a bridge runs with some variables, and the state in which
    it starts. -/
def programScope (entries : List (String × Value)) (b : BridgeState σ η κ) :
    Option Scope × BridgeState σ η κ :=
  s.bindScope (entries.map (fun e => (e.1, .value e.2)) ++ s.fixedBindings) b.openScope.2

/-- How the bridge serves the programs that its owner runs. -/
def serveProgram : (r : ScriptRequest) → BridgeState σ η κ → ScriptRequest.Reply r × BridgeState σ η κ :=
  s.serveScript (s.level (maxLevels - 1)) []

variable {s} {b c : BridgeState σ η κ}

theorem bindScope_fixed (b : BridgeState σ η κ) :
    (s.bindScope s.fixedBindings b).1 = some (s.objectScope b.counters.handle) := by
  unfold fixedBindings objectScope
  cases s.callback <;> rfl

/-- A scope has the variables, and then the objects under the next handles. -/
theorem eq_of_programScope {entries : List (String × Value)} {scope : Scope}
    (h : s.programScope entries b = (some scope, c)) :
    scope = entries.map (fun e => (e.1, e.2.transcript)) ++ s.objectScope b.counters.handle ∧
      c = (s.bindScope s.fixedBindings b.openScope.2).2 := by
  have hfixed : s.bindScope s.fixedBindings b.openScope.2 =
      (some (s.objectScope b.counters.handle), (s.bindScope s.fixedBindings b.openScope.2).2) :=
    Prod.ext (bindScope_fixed b.openScope.2) rfl
  unfold programScope at h
  by_cases hdepth : ∀ e ∈ entries, e.2.depth ≤ nestingLimit
  · rw [bindScope_values hdepth hfixed] at h
    cases h
    exact ⟨rfl, rfl⟩
  · simp only [not_forall, Nat.not_le] at hdepth
    obtain ⟨e, he, hdeep⟩ := hdepth
    have hnone : (s.bindScope _ b.openScope.2).1 = none :=
      bindScope_values_of_gt he hdeep s.fixedBindings
    rw [h] at hnone
    cases hnone

end Setting

/-- An argument of the second run that corresponds to one of the first: a handle by itself is moved. -/
def Shift.moveData (s : Shift) : Data → Data
  | .handle h => .handle (s.moveObject h)
  | d => d

namespace Pairing

variable (P : Pairing)

/-! ### Requests and replies -/

/-- The arguments of two calls, as scripts have them, correspond. -/
inductive Arguments (purpose : Purpose) : List Data → List Data → Prop where
  | nil : Arguments purpose [] []
  | cons {d d' : Data} (h : Outcomes Eq (P.Heads purpose) d.unmarshal d'.unmarshal)
      (rest : List Data) : Arguments purpose (d :: rest) (d' :: rest)

/-- Two calls of a function of the bridge correspond. -/
inductive Requests : Purpose → Native → List Data → List Data → Prop where
  | method {native : Native} {handle : ObjectHandle} {name : String}
      {args args' rest rest' : List Data} (hcall : native.methodCall? args = some (handle, name, rest))
      (hcall' : native.methodCall? args' = some (P.moveObject handle, name, rest'))
      (h : P.Arguments (.ofName name) rest rest') : Requests (.ofName name) native args args'
  | other {native : Native} {args : List Data} (hcall : native.methodCall? args = none)
      (hother : native.purpose args = .other) : Requests .other native args (args.map P.moveData)
  | ui {args args' : List Data} (h : P.Arguments .tree args args') : Requests .tree .ui args args'
  | uiSet {args args' : List Data} (h : P.Arguments .target args args') :
      Requests .target .uiSet args args'

/-- Two replies to corresponding calls correspond. -/
inductive Replies (purpose : Purpose) (b : RecordingState) (args : List Data) :
    Except Data Data → Except Data Data → Prop where
  | answered {r r' : Except BridgeError Value} (h : Outcomes (P.Causes purpose) (P.Results purpose) r r') :
      Replies purpose b args (Setting.reply r) (Setting.reply r')
  /-- The object of the call is gone. -/
  | stale {handle : ObjectHandle} {rest : List Data} (hargs : args = .handle handle :: rest)
      (hgone : b.handles.find? handle = none) :
      Replies purpose b args (.error (BridgeError.staleHandle handle).toData)
        (.error (BridgeError.staleHandle (P.moveObject handle)).toData)

structure Answers (purpose : Purpose) (b : RecordingState) (args : List Data)
    (x y : Except Data Data × RecordingState) : Prop where
  reply : P.Replies purpose b args x.1 y.1
  states : P.States x.2 y.2

/-- Two requests of scripts correspond. -/
inductive Asks : ScriptRequest → ScriptRequest → Prop where
  | call {purpose : Purpose} {native : Native} {args args' : List Data}
      (h : P.Requests purpose native args args') : Asks (.call native args) (.call native args')
  | print (line : String) : Asks (.print line) (.print line)

/-- Two scripts that do the same up to widget ids and handles, as the first runs from a state.  To each
    of its requests there is a corresponding one of the second, and both go on alike from the replies,
    the second from that of any corresponding state. -/
inductive Alike (serve : (r : ScriptRequest) → RecordingState → ScriptRequest.Reply r × RecordingState) :
    RecordingState → Script → Script → Prop where
  | done (b : RecordingState) (completed : Bool) : Alike serve b (.done completed) (.done completed)
  | ask {b : RecordingState} {r r' : ScriptRequest} {x : ScriptRequest.Reply r → Script}
      {y : ScriptRequest.Reply r' → Script} (hasks : P.Asks r r')
      (h : ∀ b', P.States b b' → P.Counted b b' →
        Alike serve (serve r b).2 (x (serve r b).1) (y (serve r' b').1)) :
      Alike serve b (.ask r x) (.ask r' y)

variable {P} {purpose : Purpose}

theorem replies_same (r : Except BridgeError Value) (b : RecordingState) (args : List Data) :
    P.Replies .other b args (Setting.reply r) (Setting.reply r) := .answered (outcomes_same r)

theorem replies_error (e : BridgeError) (b : RecordingState) (args : List Data) :
    P.Replies purpose b args (.error e.toData) (.error e.toData) := by
  have hcauses : Outcomes (P.Causes purpose) (P.Results purpose) (.error e) (.error e) :=
    .error (P.causes_same purpose e)
  exact .answered hcauses

theorem Called.replies {b : RecordingState} {handle : ObjectHandle} {r r' : Except BridgeError Value}
    (h : P.Called purpose b handle r r') (rest : List Data) :
    P.Replies purpose b (.handle handle :: rest) (Setting.reply r) (Setting.reply r') := by
  cases h with
  | answered h => exact .answered h
  | stale hgone => exact .stale rfl hgone

/-- A call on a live object that has nothing to do with ids is answered the same. -/
theorem Replies.eq_of_live {b : RecordingState} {args : List Data} {r r' : Except Data Data}
    (h : P.Replies .other b args r r')
    (hlive : ∀ handle rest, args = .handle handle :: rest → (b.handles.find? handle).isSome) :
    r' = r := by
  cases h with
  | answered h =>
    cases h with
    | ok h => rw [show _ = _ from h]
    | error h => rw [show _ = _ from h]
  | stale hargs hgone =>
    have hsome := hlive _ _ hargs
    rw [hgone] at hsome
    cases hsome

/-- Of two results that correspond, both can cross or neither. -/
theorem depth_le_iff_of_results {u v : Value} (h : P.Results purpose u v) :
    v.depth ≤ nestingLimit ↔ u.depth ≤ nestingLimit := by
  cases purpose with
  | widget =>
    obtain ⟨handle, rfl, rfl⟩ := h
    exact Iff.rfl
  | tree =>
    obtain ⟨output, rfl, rfl⟩ := h
    have hshallow : ∀ o : RenderOutput, o.toValue.depth ≤ nestingLimit := fun o =>
      Nat.le_trans (BridgeState.depth_toValue o) (by decide)
    exact iff_of_true (hshallow _) (hshallow _)
  | target | other =>
    obtain rfl : u = v := h
    exact Iff.rfl

/-- Two replies that correspond are both values or both errors. -/
theorem Replies.ok_or_error {b : RecordingState} {args : List Data} {r r' : Except Data Data}
    (h : P.Replies purpose b args r r') :
    (∃ d d', r = .ok d ∧ r' = .ok d') ∨ ∃ d d', r = .error d ∧ r' = .error d' := by
  cases h with
  | stale hargs hgone => exact .inr ⟨_, _, rfl, rfl⟩
  | answered houtcomes =>
    cases houtcomes with
    | error _ => exact .inr ⟨_, _, rfl, rfl⟩
    | @ok u v huv =>
      have hdepth := depth_le_iff_of_results huv
      unfold Setting.reply
      dsimp only
      by_cases hu : u.depth ≤ nestingLimit
      · rw [marshal_of_le hu, marshal_of_le (hdepth.mpr hu)]
        exact .inl ⟨_, _, rfl, rfl⟩
      · rw [marshal_of_gt (Nat.lt_of_not_le hu), marshal_of_gt (Nat.lt_of_not_le (mt hdepth.mp hu))]
        exact .inr ⟨_, _, rfl, rfl⟩

theorem Arguments.unmarshalAll {args args' : List Data} (h : P.Arguments purpose args args') :
    Outcomes Eq (P.Operands purpose) (Data.unmarshalAll args) (Data.unmarshalAll args') := by
  cases h with
  | nil => exact .ok .nil
  | @cons d d' hd rest =>
    unfold Data.unmarshalAll
    revert hd
    generalize d.unmarshal = first
    generalize d'.unmarshal = first'
    rintro (huv | rfl)
    · cases Data.unmarshalAll rest with
      | error e => exact .error rfl
      | ok values => exact .ok (.cons huv values)
    · exact .error rfl

/-- A call of a method that has nothing to do with ids, with the same arguments. -/
theorem Requests.same {name : String} (hname : Purpose.ofName name = .other) (handle : ObjectHandle)
    (args : List Data) : P.Requests .other (.method name) (.handle handle :: args)
      (.handle (P.moveObject handle) :: args) := by
  have hargs : P.Arguments .other args args := by
    cases args with
    | nil => exact .nil
    | cons d rest =>
      refine .cons ?_ rest
      cases d.unmarshal with
      | ok v => exact .ok rfl
      | error e => exact .error rfl
  rw [← hname] at hargs ⊢
  exact .method rfl rfl hargs

variable {s : Setting Recorder (List (List Value)) EchoClass} {files : FileTree} (hs : s.Records files)
  {inner : Reentry Recorder (List (List Value)) EchoClass} {running : List (ObjectRef EchoClass)}
  {b b' : RecordingState}

omit hs in
/-- The object of a call is the first argument. -/
theorem receiver_of_methodCall? {native : Native} {args rest : List Data} {handle : ObjectHandle}
    {name : String} (hcall : native.methodCall? args = some (handle, name, rest)) :
    ∃ others, args = .handle handle :: others := by
  unfold Native.methodCall? at hcall
  split at hcall <;> cases hcall <;> exact ⟨_, rfl⟩

omit hs in
theorem callNative_of_methodCall? {native : Native} {args rest : List Data} {handle : ObjectHandle}
    {name : String} (hcall : native.methodCall? args = some (handle, name, rest)) :
    s.callNative inner running native args b = s.invokeScript inner running handle name rest b := by
  unfold Native.methodCall? at hcall
  split at hcall <;> cases hcall <;> rfl

namespace States

include hs

theorem invokeScript (h : P.States b b') (hcounted : P.Counted b b') (handle : ObjectHandle)
    (name : String) {args args' : List Data} (hargs : P.Arguments (.ofName name) args args')
    (others : List Data) :
    P.Answers (.ofName name) b (.handle handle :: others)
      (s.invokeScript inner running handle name args b)
      (s.invokeScript inner running (P.moveObject handle) name args' b') := by
  have hvalues := hargs.unmarshalAll
  unfold Setting.invokeScript
  revert hvalues
  generalize Data.unmarshalAll args = values
  generalize Data.unmarshalAll args' = values'
  rintro (hvalues | rfl)
  · obtain ⟨hcalled, hstates⟩ := h.invokeOver hs inner running hcounted handle name hvalues
    exact ⟨hcalled.replies others, hstates⟩
  · exact ⟨replies_error _ _ _, h⟩

theorem readField (h : P.States b b') (handle : ObjectHandle) (name : String) :
    P.Called .other b handle (s.readField running handle name b)
      (s.readField running (P.moveObject handle) name b') := by
  have hread : ∀ number index calls, s.host.read .echo number index calls = Echo.read := by
    rw [hs.host]
    exact fun _ _ _ => rfl
  unfold Setting.readField
  rw [h.handles, P.find?_moveTable]
  cases hobject : b.handles.find? handle with
  | none => exact .stale hobject
  | some o =>
    apply Called.answered
    cases o with
    | system => exact outcomes_same _
    | host k number =>
      cases k
      simp only [hread]
      exact outcomes_same _

omit hs in
theorem refused (h : P.States b b') {args : List Data} : P.Answers purpose b args
    (.error (BridgeError.eval "no such function").toData, b)
    (.error (BridgeError.eval "no such function").toData, b') := ⟨replies_error _ _ _, h⟩

omit hs in
/-- A call of a method by its name that is not well formed. -/
theorem refusedInvoke (h : P.States b b') (handle : ObjectHandle) {rest : List Data}
    (hcall : Native.invoke.methodCall? (.handle handle :: rest) = none) :
    P.Answers purpose b (.handle handle :: rest)
      (s.callNative inner running .invoke (.handle handle :: rest) b)
      (s.callNative inner running .invoke ((.handle handle :: rest).map P.moveData) b') := by
  rcases rest with _ | ⟨name, _ | ⟨args, _ | ⟨_, _⟩⟩⟩
  · exact h.refused
  · cases name <;> exact h.refused
  · cases name with
    | string name =>
      cases args with
      | array args => cases hcall
      | _ => exact h.refused
    | _ => exact h.refused
  · cases name with
    | string name => cases args <;> exact h.refused
    | _ => exact h.refused

/-- The functions that only concern objects; with any other arguments they are refused. -/
theorem callOther (h : P.States b b') {native : Native} {args : List Data}
    (hcall : native.methodCall? args = none) (hother : native.purpose args = .other) :
    P.Answers .other b args (s.callNative inner running native args b)
      (s.callNative inner running native (args.map P.moveData) b') := by
  unfold Native.purpose at hother
  rw [hcall] at hother
  cases args with
  | nil => cases native <;> exact h.refused
  | cons first rest =>
    cases first with
    | handle handle =>
      cases native with
      | method name => cases hcall
      | invoke => exact h.refusedInvoke handle hcall
      | field name =>
        cases rest with
        | nil => exact ⟨(h.readField hs handle name).replies [], h⟩
        | cons => exact h.refused
      | retain =>
        cases rest with
        | nil =>
          refine ⟨?_, h.retain handle⟩
          simp only [List.map_cons, List.map_nil, Shift.moveData, Setting.callNative, h.retain_fst]
          exact replies_same (.ok (.bool _)) _ _
        | cons => exact h.refused
      | describe =>
        cases rest with
        | nil => exact ⟨replies_same (.ok (.string _)) _ _, h⟩
        | cons => exact h.refused
      | ui => cases hother
      | uiSet => cases hother
    | _ =>
      cases native with
      | ui => cases hother
      | uiSet => cases hother
      | _ => exact h.refused

theorem callUi (h : P.States b b') {args args' : List Data} (hargs : P.Arguments .tree args args') :
    P.Answers .tree b args (s.callNative inner running .ui args b)
      (s.callNative inner running .ui args' b') := by
  cases hargs with
  | nil => exact h.refused
  | @cons d d' hd rest =>
    rcases rest with _ | ⟨e, _ | ⟨_, _⟩⟩
    · exact h.refused
    · simp only [Setting.callNative]
      revert hd
      generalize d.unmarshal = context
      generalize d'.unmarshal = context'
      rintro (huv | rfl)
      · cases e.unmarshal with
        | error e => exact ⟨replies_error _ _ _, h⟩
        | ok description =>
          have hrender := h.render files huv s.layout description
          rw [← hs.platform] at hrender
          revert hrender
          dsimp only
          generalize b.render s.platform s.layout _ description = rendered
          generalize b'.render s.platform s.layout _ description = rendered'
          obtain ⟨output, b₁⟩ := rendered
          obtain ⟨output', b₁'⟩ := rendered'
          rintro ⟨ho | he, hstates⟩
          · have hresults : Outcomes (P.Causes .tree) (P.Results .tree) (.ok _) (.ok _) :=
              .ok ⟨_, rfl, congrArg RenderOutput.toValue ho⟩
            exact ⟨.answered hresults, hstates⟩
          · have hcauses : Outcomes (P.Causes .tree) (P.Results .tree) (.error _) (.error _) :=
              .error he
            exact ⟨.answered hcauses, hstates⟩
      · exact ⟨replies_error _ _ _, h⟩
    · exact h.refused

theorem callUiSet (h : P.States b b') (hcounted : P.Counted b b') {args args' : List Data}
    (hargs : P.Arguments .target args args') :
    P.Answers .target b args (s.callNative inner running .uiSet args b)
      (s.callNative inner running .uiSet args' b') := by
  cases hargs with
  | nil => exact h.refused
  | @cons d d' hd rest =>
    rcases rest with _ | ⟨e, _ | ⟨_, _⟩⟩
    · exact h.refused
    · simp only [Setting.callNative, hs.platform]
      revert hd
      generalize d.unmarshal = target
      generalize d'.unmarshal = target'
      rintro (huv | rfl)
      · cases e.unmarshal with
        | error e => exact ⟨replies_error _ _ _, h⟩
        | ok text =>
          have hresults : Outcomes (P.Causes .target) (P.Results .target) (.ok .nil) (.ok .nil) :=
            .ok rfl
          exact ⟨.answered hresults, h.setText files hcounted huv text⟩
      · exact ⟨replies_error _ _ _, h⟩
    · exact h.refused

theorem callNative (h : P.States b b') (hcounted : P.Counted b b') {native : Native}
    {args args' : List Data} (hrequest : P.Requests purpose native args args') :
    P.Answers purpose b args (s.callNative inner running native args b)
      (s.callNative inner running native args' b') := by
  cases hrequest with
  | other hcall hother => exact h.callOther hs hcall hother
  | method hcall hcall' hargs =>
    obtain ⟨others, rfl⟩ := receiver_of_methodCall? hcall
    rw [callNative_of_methodCall? hcall, callNative_of_methodCall? hcall']
    exact h.invokeScript hs hcounted _ _ hargs others
  | ui hargs => exact h.callUi hs hargs
  | uiSet hargs => exact h.callUiSet hs hcounted hargs

theorem serveScript (h : P.States b b') (hcounted : P.Counted b b') {r r' : ScriptRequest}
    (hasks : P.Asks r r') :
    P.States (s.serveScript inner running r b).2 (s.serveScript inner running r' b').2 := by
  cases hasks with
  | call hrequest => exact (h.callNative hs hcounted hrequest).states
  | print line =>
    have hprinted := h.recordIn (h.platform.print files line)
    rwa [← hs.platform] at hprinted

end States

/-! ### Runs of scripts -/

omit hs in
/-- What is true at the end was true before, since no record is lost. -/
theorem Counted.of_kept {c c' : RecordingState} (h : P.Counted c c') (hkept : b.KeepsBorn c)
    (hkept' : b'.KeepsBorn c') : P.Counted b b' :=
  ⟨fun id hid => h.first id (hkept id hid), fun id hid => h.second id (hkept' id hid)⟩

omit hs in
theorem keepsBorn_run (n : Nat) (x : Script) (b : RecordingState) :
    b.KeepsBorn (x.run (s.serveScript (s.level n) running) b).2 := by
  have hadmits := s.admits_bindsOnce
  have hrun : b.BindsOnce (x.run (s.serveScript (s.level n) running) b).2 :=
    Interaction.relates_run hadmits.refl hadmits.trans x b fun r c _ =>
      Setting.Relates.serveScript hadmits (hadmits.relates n) fun _ _ _ _ _ _ _ _ _ =>
        Setting.removesWithin_bindsOnce _ _ _ _
  exact hrun.kept

include hs

theorem Alike.run {n : Nat} {x y : Script} (hxy : P.Alike (s.serveScript (s.level n) running) b x y)
    (h : P.States b b')
    (hend : P.Counted (x.run (s.serveScript (s.level n) running) b).2
      (y.run (s.serveScript (s.level n) running) b').2) :
    (y.run (s.serveScript (s.level n) running) b').1 =
        (x.run (s.serveScript (s.level n) running) b).1 ∧
      P.States (x.run (s.serveScript (s.level n) running) b).2
        (y.run (s.serveScript (s.level n) running) b').2 := by
  induction hxy generalizing b' with
  | done b completed => exact ⟨rfl, h⟩
  | @ask b r r' x y hasks _ ih =>
    have hcounted : P.Counted b b' := hend.of_kept (keepsBorn_run n _ b) (keepsBorn_run n _ b')
    exact ih b' h hcounted (h.serveScript hs hcounted hasks) hend

omit hs

/-! ### Evaluations -/

include hs in
theorem States.answers (h : P.States b b') (hcounted : P.Counted b b') {native : Native}
    {args args' : List Data} (hrequest : P.Requests purpose native args args') :
    P.Answers purpose b args (s.serveProgram (.call native args) b)
      (s.serveProgram (.call native args') b') := h.callNative hs hcounted hrequest

variable (P) in
/-- A program, run from a state with the one or from a corresponding state with the other variables,
    does the same up to widget ids and handles. -/
def Starts (s : Setting Recorder (List (List Value)) EchoClass) (program : Program)
    (entries entries' : List (String × Value)) (b : RecordingState) : Prop :=
  ∀ source scope scope' c b' c', program.decode = .ok source → P.States b b' →
    s.programScope entries b = (some scope, c) → s.programScope entries' b' = (some scope', c') →
    Option.Rel (P.Alike s.serveProgram c) (s.engine.start ⟨c.classes.all⟩ scope source)
      (s.engine.start ⟨c'.classes.all⟩ scope' source)

variable (P) in
/-- The variables of two programs have the same names, and can cross in both runs or in none. -/
def Variables : List (String × Value) → List (String × Value) → Prop :=
  List.Forall₂ fun e e' => e'.1 = e.1 ∧ (e'.2.depth ≤ nestingLimit ↔ e.2.depth ≤ nestingLimit)

theorem States.bindScope_fixed (h : P.States b b') :
    P.States (s.bindScope s.fixedBindings b).2 (s.bindScope s.fixedBindings b').2 := by
  unfold Setting.fixedBindings
  cases s.callback with
  | none => exact h.adopt s.family .system
  | some callback => exact (h.adopt s.family .system).adopt s.family callback.2

theorem States.bindScope (h : P.States b b') {entries entries' : List (String × Value)}
    (hentries : Variables entries entries') :
    let x := s.bindScope (entries.map (fun e => (e.1, .value e.2)) ++ s.fixedBindings) b
    let y := s.bindScope (entries'.map (fun e => (e.1, .value e.2)) ++ s.fixedBindings) b'
    y.1.isSome = x.1.isSome ∧ P.States x.2 y.2 := by
  induction hentries with
  | nil =>
    refine ⟨?_, h.bindScope_fixed⟩
    simp only [List.map_nil, List.nil_append, Setting.bindScope_fixed, Option.isSome_some]
  | @cons e e' rest rest' he _ ih =>
    obtain ⟨name, u⟩ := e
    obtain ⟨name', v⟩ := e'
    obtain ⟨rfl, hdepth⟩ := he
    simp only [List.map_cons, List.cons_append, Setting.bindScope, BridgeState.lower]
    by_cases hu : u.depth ≤ nestingLimit
    · rw [marshal_of_le hu, marshal_of_le (hdepth.mpr hu)]
      revert ih
      dsimp only
      generalize s.bindScope (rest.map _ ++ s.fixedBindings) b = bound
      generalize s.bindScope (rest'.map _ ++ s.fixedBindings) b' = bound'
      obtain ⟨scope, b₁⟩ := bound
      obtain ⟨scope', b₁'⟩ := bound'
      rintro ⟨hcross, hstates⟩
      cases scope <;> cases scope' <;> first | exact ⟨rfl, hstates⟩ | cases hcross
    · rw [marshal_of_gt (Nat.lt_of_not_le hu), marshal_of_gt (Nat.lt_of_not_le (mt hdepth.mp hu))]
      exact ⟨rfl, h⟩

include hs

theorem States.runSource (h : P.States b b') {entries entries' : List (String × Value)}
    (hentries : Variables entries entries') {program : Program} {source : String}
    (hdecode : program.decode = .ok source) (hstarts : P.Starts s program entries entries' b) :
    let inner := s.level (Setting.maxLevels - 1)
    let x := s.runSource inner [] source (entries.map fun e => (e.1, .value e.2)) b.openScope.2
    let y := s.runSource inner [] source (entries'.map fun e => (e.1, .value e.2)) b'.openScope.2
    P.Counted x.2 y.2 → y.1 = x.1 ∧ P.States x.2 y.2 := by
  have hbound := h.openScope.bindScope (s := s) hentries
  have hstart := fun scope scope' c c' => hstarts source scope scope' c b' c' hdecode h
  unfold Setting.programScope at hstart
  unfold Setting.runSource
  revert hbound hstart
  dsimp only
  generalize s.bindScope (entries.map _ ++ s.fixedBindings) b.openScope.2 = bound
  generalize s.bindScope (entries'.map _ ++ s.fixedBindings) b'.openScope.2 = bound'
  obtain ⟨scope, c⟩ := bound
  obtain ⟨scope', c'⟩ := bound'
  rintro ⟨hcross, hstates⟩ hstart
  cases scope with
  | none =>
    cases scope' with
    | none => exact fun _ => ⟨rfl, hstates⟩
    | some => cases hcross
  | some scope =>
    cases scope' with
    | none => cases hcross
    | some scope' =>
      have hstarted := hstart scope scope' c c' rfl rfl
      dsimp only
      revert hstarted
      generalize s.engine.start ⟨c.classes.all⟩ scope source = started
      generalize s.engine.start ⟨c'.classes.all⟩ scope' source = started'
      rintro (halike | _)
      · intro hend
        obtain ⟨hcompleted, hafter⟩ := Alike.run hs halike hstates hend
        dsimp only
        rw [hcompleted]
        exact ⟨rfl, hafter⟩
      · exact fun _ => ⟨rfl, hstates⟩

theorem States.evaluate (h : P.States b b') {entries entries' : List (String × Value)}
    (hentries : Variables entries entries') {program : Program}
    (hstarts : P.Starts s program entries entries' b) :
    let x := s.owner.evaluate [] program (entries.map fun e => (e.1, .value e.2)) b
    let y := s.owner.evaluate [] program (entries'.map fun e => (e.1, .value e.2)) b'
    P.Counted x.2 y.2 → y.1 = x.1 ∧ P.States x.2 y.2 := by
  have howner : s.owner.evaluate = s.evaluateOver (s.level (Setting.maxLevels - 1)) := rfl
  simp only [howner, Setting.evaluateOver]
  cases hdecode : program.decode with
  | error e => exact fun _ => ⟨rfl, h⟩
  | ok source =>
    intro hend
    obtain ⟨hstatus, hstates⟩ := h.runSource hs hentries hdecode hstarts ⟨hend.first, hend.second⟩
    rw [h.openScope_fst]
    exact ⟨hstatus, hstates.closeScope _⟩

/-! ### Dispatches -/

omit hs in
theorem Bindings.variables {x y : CallbackBinding} (h : P.Bindings x y) (event : Value) :
    Variables (logicEntries x event) (logicEntries y event) := by
  have hnames : ∀ t : NameTable, t.toValue.depth ≤ nestingLimit := fun t =>
    Nat.le_trans (BridgeState.depth_toValue (.names t)) (by decide)
  have hfixed : Variables
      [("ctx", x.context), ("ui", x.names.toValue), ("event", event)]
      [("ctx", y.context), ("ui", y.names.toValue), ("event", event)] :=
    .cons ⟨rfl, P.depth_le_iff h.context⟩ (.cons ⟨rfl, iff_of_true (hnames _) (hnames _)⟩
      (.cons ⟨rfl, Iff.rfl⟩ .nil))
  have hmoved : ∀ {fixed fixed' : List (String × Value)} (named : List (String × WidgetHandle)),
      Variables fixed fixed' → Variables (named.map (fun e => (e.1, e.2.toValue)) ++ fixed)
        ((named.map fun e => (e.1, P.moveHandle e.2)).map (fun e => (e.1, e.2.toValue)) ++ fixed') := by
    intro fixed fixed' named hrest
    induction named with
    | nil => exact hrest
    | cons e rest ih => exact .cons ⟨rfl, Iff.rfl⟩ ih
  have hentries : y.names.entries = x.names.entries.map fun e => (e.1, P.moveHandle e.2) := by
    rw [h.names]
    rfl
  unfold logicEntries
  rw [hentries]
  exact hmoved x.names.entries hfixed

theorem States.dispatch (h : P.States b b') (id : WidgetId) (event : Value)
    (hstarts : ∀ x y, b.callbacks.find? id = some x → P.Bindings x y →
      P.Starts s x.logic (logicEntries x event) (logicEntries y event) b) :
    let x := Setting.dispatchBy (s.owner.evaluate []) id event b
    let y := Setting.dispatchBy (s.owner.evaluate []) (P.move id) event b'
    P.Counted x.2 y.2 → y.1 = x.1 ∧ P.States x.2 y.2 := by
  have hbound := h.callbacks id
  unfold Setting.dispatchBy CallbackRegistry.fire
  revert hbound hstarts
  generalize b.callbacks.find? id = found
  generalize b'.callbacks.find? (P.move id) = found'
  rintro hstarts (hbound | _)
  · rename_i x y
    dsimp only [Option.map_some]
    rw [Setting.dispatchScope_eq, Setting.dispatchScope_eq, hbound.logic]
    intro hend
    obtain ⟨hstatus, hstates⟩ :=
      h.evaluate hs (hbound.variables event) (hstarts x y rfl hbound) hend
    exact ⟨congrArg some hstatus, hstates⟩
  · exact fun _ => ⟨rfl, h⟩

end Pairing
end ScriptBridge
