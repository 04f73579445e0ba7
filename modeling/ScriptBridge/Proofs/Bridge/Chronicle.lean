/-
  ScriptBridge/Proofs/Bridge/Chronicle.lean
  =========================================
  **Bridges with the record of what was done to them.**

  Whatever happens to a bridge is a sequence of actions: objects are adopted,
  scopes open and close, handles are retained and released, widgets are built,
  moved, changed and destroyed.  A chronicle is a bridge together with what such
  a sequence did so far: which scopes are open and which handles were adopted in
  each, which handles lost their scope or were retained, which creations the
  platform accepted and which widgets were destroyed.  Only the state is part of
  a running bridge; the rest is what statements about whole histories refer to.

  Scopes are closed in the order opposite to that of their opening.  A sequence
  is balanced when it closes the scopes that it opens and no others;
  `tokens_actAll` says that it then leaves the open scopes as they were.
-/
import ScriptBridge.Bridge.Echo
import ScriptBridge.Bridge.Evaluate
import ScriptBridge.Platform.Recorder
import ScriptBridge.Proofs.Descriptor.Logic
import ScriptBridge.Script.Run

namespace ScriptBridge

variable {σ η κ : Type}

/-- One thing that is done to a bridge. -/
inductive Action (η κ : Type) where
  | adopt (o : ObjectRef κ)
  | openScope
  /-- Closes the innermost open scope. -/
  | closeScope
  | retain (handle : ObjectHandle)
  | release (handle : ObjectHandle)
  | setHost (state : η)
  /-- Creates a widget, binds its logic and places it. -/
  | build (context : Value) (plan : WidgetPlan) (rendering : Rendering)
  | put (target : Value) (frame : Frame)
  | setText (target text : Value)
  | destroy (id : WidgetId)
  | read (path : String)
  | window (width height : Int64)
  | print (line : String)
  /-- Other bridges of the process use up ids and handles. -/
  | elsewhere (widgets handles : Nat)

/-- The number of widget ids that the action uses up. -/
def Action.widgets : Action η κ → Nat
  | .build _ _ _ => 1
  | .elsewhere widgets _ => widgets
  | _ => 0

/-- A scope that is open, with the handles adopted in it. -/
structure OpenScope where
  token : ScopeToken
  adopted : List ObjectHandle

/-- A creation that the platform accepted. -/
structure Creation where
  id : WidgetId
  context : Value
  plan : WidgetPlan

/-- A bridge and what was done to it. -/
structure Chronicle (σ η κ : Type) where
  state : BridgeState σ η κ
  /-- The open scopes, the innermost first. -/
  scopes : List OpenScope
  /-- The handles whose scope has ended. -/
  ended : List ObjectHandle
  /-- The handles that were retained, as often as they were. -/
  retained : List ObjectHandle
  /-- The accepted creations, in order. -/
  created : List Creation
  /-- The widgets that were destroyed. -/
  destroyed : List WidgetId

/-- The chronicle of a bridge that nothing has happened on. -/
def Chronicle.initial (platform : σ) (host : η) (counters : Counters) : Chronicle σ η κ :=
  ⟨.initial platform host counters, [], [], [], [], []⟩

/-- Notes a handle with the innermost scope; outside any scope there is none to note it with. -/
def OpenScope.note (h : ObjectHandle) : List OpenScope → List OpenScope
  | [] => []
  | scope :: rest => { scope with adopted := h :: scope.adopted } :: rest

/-- The creation of the next widget, if the platform accepts it. -/
def BridgeState.creation? (platform : Platform σ) (context : Value) (plan : WidgetPlan)
    (b : BridgeState σ η κ) : Option Creation :=
  match (platform.create b.counters.widget plan.blueprint b.platform).1 with
  | .ok _ => some ⟨b.counters.widget, context, plan⟩
  | .error _ => none

/-- The counters after other bridges used up ids and handles. -/
def Counters.skip (c : Counters) (widgets handles : Nat) : Counters :=
  ⟨c.widget + Int64.ofNat widgets, c.handle + handles⟩

namespace Setting

variable [DecidableEq κ] (s : Setting σ η κ)

/-- Does one action. -/
def act (a : Action η κ) (c : Chronicle σ η κ) : Chronicle σ η κ :=
  match a with
  | .adopt o =>
    let (h, state) := c.state.adopt s.family o
    { c with state := state, scopes := OpenScope.note h c.scopes }
  | .openScope =>
    let (token, state) := c.state.openScope
    { c with state := state, scopes := ⟨token, []⟩ :: c.scopes }
  | .closeScope =>
    match c.scopes with
    | [] => c
    | scope :: rest =>
      { c with
        state := c.state.closeScope scope.token
        scopes := rest
        ended := scope.adopted ++ c.ended }
  | .retain h =>
    let (known, state) := c.state.retain h
    { c with state := state, retained := if known then h :: c.retained else c.retained }
  | .release h => { c with state := (c.state.release h).2 }
  | .setHost h => { c with state := { c.state with host := h } }
  | .build context plan r =>
    { c with
      state := (c.state.build s.platform context plan r).2.2
      created := c.created ++ (c.state.creation? s.platform context plan).toList }
  | .put target frame => { c with state := (c.state.put s.platform target frame).2 }
  | .setText target text => { c with state := c.state.setText s.platform target text }
  | .destroy id =>
    let (result, state) := c.state.destroyWidget id
    { c with state := state, destroyed := if result.toBool then id :: c.destroyed else c.destroyed }
  | .read path =>
    { c with state := { c.state with platform := (s.platform.read path c.state.platform).2 } }
  | .window width height =>
    { c with
      state := { c.state with platform := (s.platform.window width height c.state.platform).2 } }
  | .print line =>
    { c with state := { c.state with platform := s.platform.print line c.state.platform } }
  | .elsewhere widgets handles =>
    { c with state := { c.state with counters := c.state.counters.skip widgets handles } }

/-- Does some actions one after the other. -/
def actAll (actions : List (Action η κ)) (c : Chronicle σ η κ) : Chronicle σ η κ :=
  actions.foldl (fun c a => s.act a c) c

@[simp] theorem actAll_nil (c : Chronicle σ η κ) : s.actAll [] c = c := rfl

@[simp] theorem actAll_cons (a : Action η κ) (actions : List (Action η κ)) (c : Chronicle σ η κ) :
    s.actAll (a :: actions) c = s.actAll actions (s.act a c) := rfl

theorem actAll_append (first second : List (Action η κ)) (c : Chronicle σ η κ) :
    s.actAll (first ++ second) c = s.actAll second (s.actAll first c) := List.foldl_append

theorem act_closeScope {c : Chronicle σ η κ} {scope : OpenScope} {rest : List OpenScope}
    (h : c.scopes = scope :: rest) :
    s.act .closeScope c =
      { c with
        state := c.state.closeScope scope.token
        scopes := rest
        ended := scope.adopted ++ c.ended } := by
  simp only [act, h]

/-- What every action keeps holds after any number of them. -/
theorem actAll_invariant {I : Chronicle σ η κ → Prop} (hstep : ∀ a c, I c → I (s.act a c))
    (actions : List (Action η κ)) (c : Chronicle σ η κ) (hc : I c) : I (s.actAll actions c) := by
  induction actions generalizing c with
  | nil => exact hc
  | cons a actions ih => exact ih _ (hstep a c hc)

end Setting

/-! ### Balanced sequences -/

/-- The action opens or closes a scope. -/
def Action.isScoping : Action η κ → Bool
  | .openScope | .closeScope => true
  | _ => false

/-- The action asks for no widget with a blank logic. -/
def Action.IsRunnable : Action η κ → Prop
  | .build _ plan _ => Runnable plan.logic
  | _ => True

/-- The actions close the scopes that they open, and no others. -/
inductive Balanced : List (Action η κ) → Prop where
  | nil : Balanced []
  | cons {a : Action η κ} {rest : List (Action η κ)} (ha : a.isScoping = false)
      (hrest : Balanced rest) : Balanced (a :: rest)
  | scope {inner rest : List (Action η κ)} (hinner : Balanced inner) (hrest : Balanced rest) :
      Balanced (.openScope :: (inner ++ .closeScope :: rest))

theorem Balanced.append {first second : List (Action η κ)} (hfirst : Balanced first)
    (hsecond : Balanced second) : Balanced (first ++ second) := by
  induction hfirst with
  | nil => exact hsecond
  | cons ha _ ih => exact .cons ha ih
  | @scope inner rest hinner _ _ ih =>
    have hscope := Balanced.scope hinner ih
    simpa using hscope

/-- The tokens of the open scopes. -/
def Chronicle.tokens (c : Chronicle σ η κ) : List ScopeToken := c.scopes.map OpenScope.token

theorem OpenScope.map_token_note (h : ObjectHandle) (scopes : List OpenScope) :
    (OpenScope.note h scopes).map OpenScope.token = scopes.map OpenScope.token := by
  cases scopes <;> rfl

namespace Setting

variable [DecidableEq κ] (s : Setting σ η κ)

theorem tokens_act {a : Action η κ} (ha : a.isScoping = false) (c : Chronicle σ η κ) :
    (s.act a c).tokens = c.tokens := by
  cases a with
  | openScope => cases ha
  | closeScope => cases ha
  | adopt o => exact OpenScope.map_token_note _ _
  | _ => rfl

/-- A balanced sequence leaves the open scopes as they were. -/
theorem tokens_actAll {actions : List (Action η κ)} (hactions : Balanced actions)
    (c : Chronicle σ η κ) : (s.actAll actions c).tokens = c.tokens := by
  induction hactions generalizing c with
  | nil => rfl
  | cons ha _ ih => rw [actAll_cons, ih, s.tokens_act ha]
  | @scope inner rest _ _ ihinner ihrest =>
    have hopen : (s.act .openScope c).tokens = c.state.openScope.1 :: c.tokens := rfl
    have hinner := (ihinner (s.act .openScope c)).trans hopen
    rw [actAll_cons, actAll_append, actAll_cons, ihrest]
    cases hscopes : (s.actAll inner (s.act .openScope c)).scopes with
    | nil =>
      rw [Chronicle.tokens, hscopes] at hinner
      cases hinner
    | cons scope outer =>
      rw [Chronicle.tokens, hscopes] at hinner
      rw [s.act_closeScope hscopes]
      exact (List.cons.inj hinner).2

/-- What a bracketed sequence leaves: the state of its inside with the scope closed. -/
theorem state_actAll_scope {inner : List (Action η κ)} (hinner : Balanced inner)
    (c : Chronicle σ η κ) :
    (s.actAll (.openScope :: (inner ++ [.closeScope])) c).state =
      (s.actAll inner (s.act .openScope c)).state.closeScope c.state.openScope.1 := by
  -- The inside leaves the open scopes as they were, so the innermost one is the one it started in.
  have htokens := s.tokens_actAll hinner (s.act .openScope c)
  rw [actAll_cons, actAll_append]
  cases hscopes : (s.actAll inner (s.act .openScope c)).scopes with
  | nil =>
    rw [Chronicle.tokens, hscopes] at htokens
    cases htokens
  | cons scope outer =>
    rw [Chronicle.tokens, hscopes] at htokens
    have htoken : scope.token = c.state.openScope.1 := (List.cons.inj htokens).1
    rw [actAll_cons, actAll_nil, s.act_closeScope hscopes, htoken]

/-! ### What a balanced sequence can bring about -/

/-- Some balanced sequence of actions leads from one state to the other, whatever was done before. -/
def Leads (b b' : BridgeState σ η κ) : Prop :=
  ∃ actions, Balanced actions ∧ (∀ a ∈ actions, a.IsRunnable) ∧
    ∀ c : Chronicle σ η κ, c.state = b → (s.actAll actions c).state = b'

namespace Leads

variable {s} {b b' b'' : BridgeState σ η κ}

theorem refl (b : BridgeState σ η κ) : s.Leads b b :=
  ⟨[], .nil, fun _ ha => absurd ha List.not_mem_nil, fun _ hc => hc⟩

theorem trans (h : s.Leads b b') (h' : s.Leads b' b'') : s.Leads b b'' := by
  obtain ⟨first, hfirst, hrunnable, hrun⟩ := h
  obtain ⟨second, hsecond, hrunnable', hrun'⟩ := h'
  refine ⟨first ++ second, hfirst.append hsecond, fun a ha => ?_, fun c hc => ?_⟩
  · exact (List.mem_append.mp ha).elim (hrunnable a) (hrunnable' a)
  · rw [actAll_append]
    exact hrun' _ (hrun c hc)

/-- One action that opens and closes nothing. -/
theorem act (a : Action η κ) (ha : a.isScoping = false) (hrunnable : a.IsRunnable)
    (h : ∀ c : Chronicle σ η κ, c.state = b → (s.act a c).state = b') : s.Leads b b' :=
  ⟨[a], .cons ha .nil, fun _ hmem => by rwa [List.mem_singleton.mp hmem], h⟩

/-- An inner sequence between the opening of a scope and its closing. -/
theorem scope (h : s.Leads b.openScope.2 b') : s.Leads b (b'.closeScope b.openScope.1) := by
  obtain ⟨inner, hinner, hrunnable, hrun⟩ := h
  refine ⟨.openScope :: (inner ++ [.closeScope]), .scope hinner .nil, fun a ha => ?_,
    fun c hc => ?_⟩
  · simp only [List.mem_cons, List.mem_append, List.not_mem_nil, or_false] at ha
    rcases ha with rfl | ha | rfl
    · trivial
    · exact hrunnable a ha
    · trivial
  · subst hc
    rw [s.state_actAll_scope hinner, hrun (s.act .openScope c) rfl]

end Leads

/-- A setting to run examples in: a recording platform without assets, and the listening host. -/
def rehearsal : Setting Recorder (List (List Value)) EchoClass :=
  ⟨Recorder.platform .emptyDirectory, echoHost, scriptLanguage, .standard,
    some ("callback", echoObject)⟩

end Setting
end ScriptBridge
