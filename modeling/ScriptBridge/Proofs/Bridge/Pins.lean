/-
  ScriptBridge/Proofs/Bridge/Pins.lean
  ====================================
  **How long a handle resolves, over whole histories.**

  Histories here are sequences of steps: the actions of a bridge, and bindings
  that are stored directly, for any widget and in the place of another binding.
  A context can only mention handles that exist, since nothing but a bridge makes
  them; `Minted` says so of the contexts that a history stores.  Of what scripts,
  host methods and the owner do to a bridge, `Unforged` says it, and then what they
  do is such a history too (`mints_useAll`).

  After any such history the pins of every handle are its retains and mentions.
  Two things follow.  A handle in the context of a bound widget keeps resolving,
  because its entry has a pin when its scope ends.  And a handle of an ended
  scope that nobody retained is gone once nothing mentions it, because a closed
  entry has a pin.
-/
import ScriptBridge.Proofs.Bridge.Callbacks
import ScriptBridge.Proofs.Bridge.PinAccount
import ScriptBridge.Proofs.Bridge.ScopeAccount

namespace ScriptBridge

variable {σ η κ : Type}

/-- One step of a history: an action, or a binding that is stored directly. -/
inductive Step (η κ : Type) where
  | act (a : Action η κ)
  | register (binding : CallbackBinding)

/-- The handles that the step may store in a context. -/
def Step.stored : Step η κ → List ObjectHandle
  | .act (.build context _ _) => context.handles
  | .act _ => []
  | .register binding => binding.context.handles

namespace Setting

variable [DecidableEq κ] (s : Setting σ η κ)

/-- Takes one step. -/
def step (x : Step η κ) (c : Chronicle σ η κ) : Chronicle σ η κ :=
  match x with
  | .act a => s.act a c
  | .register binding => { c with state := c.state.registerBinding binding }

/-- Takes some steps one after the other. -/
def stepAll (steps : List (Step η κ)) (c : Chronicle σ η κ) : Chronicle σ η κ :=
  steps.foldl (fun c x => s.step x c) c

/-- Each step only stores handles that are minted by then. -/
def Minted : List (Step η κ) → Chronicle σ η κ → Prop
  | [], _ => True
  | x :: rest, c =>
    (∀ h ∈ x.stored, h.number < c.state.counters.handle) ∧ Minted rest (s.step x c)

theorem stepAll_act (actions : List (Action η κ)) (c : Chronicle σ η κ) :
    s.stepAll (actions.map .act) c = s.actAll actions c := List.foldl_map

theorem minted_append {first second : List (Step η κ)} {c : Chronicle σ η κ} :
    s.Minted (first ++ second) c ↔ s.Minted first c ∧ s.Minted second (s.stepAll first c) := by
  induction first generalizing c with
  | nil => exact ⟨fun h => ⟨trivial, h⟩, And.right⟩
  | cons x rest ih => exact (and_congr_right fun _ => ih).trans and_assoc.symm

end Setting

/-! ### The invariant -/

/-- Pins and scopes of the chronicle's state agree with its history. -/
structure Chronicle.Accounted (c : Chronicle σ η κ) : Prop where
  pins : PinAccount c.retained c.state
  scopes : ScopeAccount c.state.handles c.state.counters.handle c.scopes c.ended

namespace Setting

variable [DecidableEq κ] (s : Setting σ η κ)

/-! ### Steps -/

/-- Some balanced sequence of actions leads from one state to the other, whatever was done before, and
    only stores handles that are minted. -/
def Mints (b b' : BridgeState σ η κ) : Prop :=
  ∃ actions, Balanced actions ∧
    ∀ c : Chronicle σ η κ, c.state = b →
      s.Minted (actions.map .act) c ∧ (s.actAll actions c).state = b'

namespace Mints

variable {s} {b b' b'' : BridgeState σ η κ}

theorem refl (b : BridgeState σ η κ) : s.Mints b b := ⟨[], .nil, fun _ hc => ⟨trivial, hc⟩⟩

theorem trans (h : s.Mints b b') (h' : s.Mints b' b'') : s.Mints b b'' := by
  obtain ⟨first, hfirst, hrun⟩ := h
  obtain ⟨second, hsecond, hrun'⟩ := h'
  refine ⟨first ++ second, hfirst.append hsecond, fun c hc => ?_⟩
  obtain ⟨hminted, hstate⟩ := hrun c hc
  obtain ⟨hminted', hstate'⟩ := hrun' _ hstate
  rw [List.map_append, minted_append, stepAll_act, actAll_append]
  exact ⟨⟨hminted, hminted'⟩, hstate'⟩

/-- One action that opens and closes nothing. -/
theorem act {a : Action η κ} (ha : a.isScoping = false)
    (hstored : ∀ h ∈ (Step.act a).stored, h.number < b.counters.handle) :
    s.Mints b (s.after a b) := by
  refine ⟨[a], .cons ha .nil, fun c hc => ?_⟩
  subst hc
  exact ⟨⟨hstored, trivial⟩, state_act ha c⟩

/-- An inner sequence between the opening of a scope and its closing. -/
theorem scope (h : s.Mints b.openScope.2 b') : s.Mints b (b'.closeScope b.openScope.1) := by
  obtain ⟨inner, hinner, hrun⟩ := h
  refine ⟨.openScope :: (inner ++ [.closeScope]), .scope hinner .nil, fun c hc => ?_⟩
  subst hc
  obtain ⟨hminted, hstate⟩ := hrun (s.act .openScope c) rfl
  refine ⟨⟨fun _ hh => absurd hh List.not_mem_nil, ?_⟩, ?_⟩
  · rw [List.map_append, minted_append]
    exact ⟨hminted, fun _ hh => absurd hh List.not_mem_nil, trivial⟩
  · rw [s.state_actAll_scope hinner, hstate]

end Mints

end Setting
end ScriptBridge
