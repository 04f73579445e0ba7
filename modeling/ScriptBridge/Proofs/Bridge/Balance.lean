/-
  ScriptBridge/Proofs/Bridge/Balance.lean
  =======================================
  **Every way out of an evaluation is balanced.**

  An evaluation ends well, or with an error of the script, or before the script
  starts, because a binding cannot cross the bridge or the source does not parse.
  Objects were adopted by then in each case, and other evaluations may have run
  in between.  All of these ways close the scope that was opened, so what an
  evaluation leaves can be told from the two ends: handles of the evaluation stay
  exactly if they are pinned, and handles from before stay unless something took
  them away.  Only two requests of host methods can do that, so a handle that is
  lost is lost to one of those that were served in the course of the evaluation.
-/
import ScriptBridge.Proofs.Bridge.Steady

namespace ScriptBridge

variable {σ η κ : Type}

/-- The request takes the handle away.  It releases the handle, or it destroys a widget whose context
    had all of the handle's pins, after the scope of the handle has ended. -/
inductive HostRequest.Loses (h : ObjectHandle) (b : BridgeState σ η κ) : HostRequest η κ → Prop where
  | release {e : HandleEntry (ObjectRef κ)} (he : b.handles.get? h = some e) : Loses h b (.release h)
  | lastPin {id : WidgetId} {binding : CallbackBinding} {e : HandleEntry (ObjectRef κ)}
      (hdestroyed : (b.destroyWidget id).1 = .ok ()) (hbound : b.callbacks.find? id = some binding)
      (he : b.handles.get? h = some e) (hended : e.closed = true)
      (hpins : e.pins ≤ binding.context.handles.count h) : Loses h b (.destroy id)

namespace Setting

variable [DecidableEq κ] {s : Setting σ η κ} {n : Nat} {running : List (ObjectRef κ)}
  {program : Program} {bindings : List (String × HostValue κ)} {b : BridgeState σ η κ}
  {h : ObjectHandle}

/-! ### Handles from before -/

/-- A removal that does not take the handle away keeps it. -/
theorem keeps_removal {r : HostRequest η κ} {a : Action η κ} (ha : r.removal? = some a)
    (hloses : ¬ r.Loses h b) : HandleTable.Keeps h b.handles (s.after a b).handles := by
  cases r with
  | release k =>
    cases ha
    by_cases hk : k = h
    · subst hk
      exact fun e he => absurd (.release he) hloses
    · refine .of_get?_eq ?_
      exact (HandleTable.get?_release b.handles k h).trans (if_neg hk)
  | destroy id =>
    cases ha
    rcases s.handles_destroy id b with hsame | ⟨binding, hdestroyed, hbound, hunpinned⟩
    · rw [hsame]
      exact .refl h _
    · rw [hunpinned]
      refine .unpinAll fun e he hended => Nat.lt_of_not_le fun hpins => ?_
      exact hloses (.lastPin hdestroyed hbound he hended hpins)
  | _ => cases ha

theorem respects_keeps (s : Setting σ η κ) (h : ObjectHandle) :
    s.Respects fun b b' => b.Steady → b'.Steady ∧ HandleTable.Keeps h b.handles b'.handles where
  refl b hb := ⟨hb, .refl h b.handles⟩
  trans hfirst hsecond hb := by
    obtain ⟨hb', hkeeps⟩ := hfirst hb
    obtain ⟨hb'', hkeeps'⟩ := hsecond hb'
    exact ⟨hb'', hkeeps.trans hkeeps'⟩
  act a b hscoping hremoval _ hb :=
    ⟨(passes_after hb hscoping).steady, .grows hb.handles (grows_after hb hscoping hremoval)⟩
  scope hinner hb := by
    obtain ⟨hb', hkeeps⟩ := hinner hb.openScope
    exact ⟨hb'.closeScope _, .scope hb.handles hb'.handles hkeeps⟩

/-- A handle that an evaluation found is there afterwards, for the same object, or was lost to a request
    in its course. -/
theorem kept_or_lost (hb : b.Steady) {o : ObjectRef κ} (ho : b.handles.find? h = some o) :
    ((s.level n).evaluate running program bindings b).2.handles.find? h = some o ∨
    ∃ r b₁, s.Serves n running (.evaluate program bindings) b r b₁ ∧ r.Loses h b₁ := by
  by_cases hlost : ∃ r b₁, s.Serves n running (.evaluate program bindings) b r b₁ ∧ r.Loses h b₁
  · exact Or.inr hlost
  · have hremovals : s.RemovesWithin
        (fun b b' => b.Steady → b'.Steady ∧ HandleTable.Keeps h b.handles b'.handles) n running
        (.evaluate program bindings) b := by
      intro r b₁ a hserves ha hb₁
      have hscoping : a.isScoping = false := by
        cases r <;> cases ha <;> rfl
      exact ⟨(passes_after hb₁ hscoping).steady,
        keeps_removal ha fun hloses => hlost ⟨r, b₁, hserves, hloses⟩⟩
    obtain ⟨-, hkeeps⟩ :=
      ((s.respects_keeps h).admits.relates n).evaluate running program bindings b hremovals hb
    obtain ⟨e, he, rfl⟩ := Option.map_eq_some_iff.mp ho
    obtain ⟨e', he', hobject, -⟩ := hkeeps e he
    exact Or.inl (Option.map_eq_some_iff.mpr ⟨e', he', hobject⟩)

/-! ### Handles of the evaluation -/

theorem passes_runSource (hb : b.Steady) {source : String} (hdecode : program.decode = .ok source) :
    b.openScope.2.Passes (s.runSource (s.level n) running source bindings b.openScope.2).2 :=
  Relates.runSource s.respects_passes.admits (s.respects_passes.admits.relates n)
    (removesWithin_passes (n + 1) running (.evaluate program bindings) b) hdecode hb.openScope

theorem passes_evaluate (hb : b.Steady) :
    b.Passes ((s.level n).evaluate running program bindings b).2 :=
  (s.respects_passes.admits.relates n).evaluate running program bindings b
    (removesWithin_passes n running (.evaluate program bindings) b) hb

/-- A program that does not decode opens no scope, and changes nothing. -/
theorem evaluate_of_undecodable {e : Utf8.Fault} (hdecode : program.decode = .error e) :
    (s.level (n + 1)).evaluate running program bindings b = (.badProgram, b) := by
  simp only [level, evaluateOver, hdecode]

/-- Of the handles of an evaluation, the pinned ones are left, and their scope has ended. -/
theorem get?_evaluate (hb : b.Steady) {source : String} (hdecode : program.decode = .ok source)
    (hnew : b.counters.handle ≤ h.number) :
    ((s.level (n + 1)).evaluate running program bindings b).2.handles.get? h =
      ((s.runSource (s.level n) running source bindings b.openScope.2).2.handles.get? h).bind fun e =>
        if 0 < e.pins then some { e with closed := true } else none := by
  have hleft : ((s.level (n + 1)).evaluate running program bindings b).2 =
      (s.runSource (s.level n) running source bindings b.openScope.2).2.closeScope b.openScope.1 := by
    simp only [level, evaluateOver, hdecode]
  rw [hleft]
  exact (passes_runSource hb hdecode).get?_closeScope hnew

theorem pins_evaluate_pos (hb : b.Steady) (hnew : b.counters.handle ≤ h.number)
    {e : HandleEntry (ObjectRef κ)}
    (he : ((s.level (n + 1)).evaluate running program bindings b).2.handles.get? h = some e) :
    0 < e.pins := by
  cases hdecode : program.decode with
  | error _ =>
    rw [evaluate_of_undecodable hdecode] at he
    exact absurd (hb.handles.minted h e he) (Nat.not_lt.mpr hnew)
  | ok source =>
    rw [get?_evaluate hb hdecode hnew, Option.bind_eq_some_iff] at he
    obtain ⟨e₁, -, hpinned⟩ := he
    split at hpinned
    · next hpins =>
      cases hpinned
      exact hpins
    · cases hpinned

/-! ### Host objects that methods return -/

/-- An object that the method returns is adopted in the scope of this depth, under a handle that was
    not given out before this one. -/
def ReturnsInto (s : Setting σ η κ) (n : Nat) (running : List (ObjectRef κ)) (depth next : Nat)
    (handle : ObjectHandle) (method : String) (args : List Value) (b : BridgeState σ η κ) : Prop :=
  ∀ o o' b₁, b.handles.find? handle = some o →
    (s.tableOf o).call method args (s.runMethod (s.level n) running o) b = (.ok (.object o'), b₁) →
    ∃ h b', (s.level (n + 1)).invoke running handle method args b = (.ok (.object h), b') ∧
      next ≤ h.number ∧ b'.handles.get? h = some ⟨o', depth, 0, false⟩

/-- It is adopted in the scope that is the innermost open one when the method is called. -/
theorem returnsInto_depth (hb : b.Steady) (handle : ObjectHandle) (method : String) (args : List Value) :
    s.ReturnsInto n running b.handles.depth b.counters.handle handle method args b := by
  intro o o' b₁ hobject hcall
  have hpasses : b.Passes b₁ := by
    have hrun := Relates.call s.respects_passes.admits (s.respects_passes.admits.relates n)
      (removesWithin_passes (n + 1) running (.invoke handle method args) b) hobject hb
    rwa [hcall] at hrun
  refine ⟨⟨b₁.counters.handle⟩, (b₁.adopt s.family o').2, ?_, hpasses.counter, ?_⟩
  · simp only [level, invokeOver, hobject, hcall, BridgeState.lower, BridgeState.adopt]
  · rw [← hpasses.spans.depth]
    exact HandleTable.get?_adopt_self _ _ _

/-- The methods that the script of an evaluation calls return into the scope of the evaluation. -/
theorem returnsInto_of_calls (hb : b.Steady) {handle : ObjectHandle} {method : String}
    {args : List Value} {b₁ : BridgeState σ η κ}
    (hcalls : s.Calls n running program bindings b handle method args b₁) :
    s.ReturnsInto n running (b.handles.depth + 1) b.counters.handle handle method args b₁ := by
  have hpasses : b.openScope.2.Passes b₁ :=
    Relates.called s.respects_passes.admits (s.respects_passes.admits.relates n)
      (removesWithin_passes (n + 1) running (.evaluate program bindings) b) hcalls hb.openScope
  intro o o' b₂ hobject hcall
  obtain ⟨h, b', hinvoke, hnew, hentry⟩ :=
    returnsInto_depth hpasses.steady handle method args o o' b₂ hobject hcall
  rw [hpasses.spans.depth] at hentry
  exact ⟨h, b', hinvoke, Nat.le_trans hpasses.counter hnew, hentry⟩

/-! ### Evaluations -/

/-- An evaluation on a bridge after any history, however it ends.  The scopes that were open are open
    again.  A handle that was adopted during the evaluation resolves exactly if it was pinned when its
    run was over, and then it still is.  A handle that resolved before resolves to the same object, unless
    a request that was served in the course of the evaluation took it away; any such request is made
    after a longer history, so nested evaluations and calls are covered as well.  An object that a method returns to
    the script of the evaluation, or to any other caller, is in the innermost scope that was open at
    the call, under a handle that is new.  A program that does not decode has status 1, and changes
    nothing. -/
theorem evaluation_balanced (s : Setting σ η κ) (platform : σ) (host : η) (counters : Counters)
    (actions : List (Action η κ)) (n : Nat) (running : List (ObjectRef κ)) (program : Program)
    (bindings : List (String × HostValue κ)) :
    let b := (s.actAll actions (.initial platform host counters)).state
    let b' := ((s.level (n + 1)).evaluate running program bindings b).2
    b'.handles.depth = b.handles.depth ∧
    (∀ source, program.decode = .ok source →
      let ended := (s.runSource (s.level n) running source bindings b.openScope.2).2
      ∀ h o, b.counters.handle ≤ h.number →
        (b'.handles.find? h = some o ↔
          ∃ e, ended.handles.get? h = some e ∧ e.object = o ∧ 0 < e.pins)) ∧
    (∀ h e, b.counters.handle ≤ h.number → b'.handles.get? h = some e → 0 < e.pins) ∧
    (∀ h o, b.handles.find? h = some o →
      b'.handles.find? h = some o ∨
      ∃ r b₁, s.Serves (n + 1) running (.evaluate program bindings) b r b₁ ∧ r.Loses h b₁) ∧
    (∀ r b₁, s.Serves (n + 1) running (.evaluate program bindings) b r b₁ → s.Reaches b b₁) ∧
    (∀ handle method args b₁, s.Calls n running program bindings b handle method args b₁ →
      s.ReturnsInto n running (b.handles.depth + 1) b.counters.handle handle method args b₁) ∧
    (∀ handle method args,
      s.ReturnsInto n running b.handles.depth b.counters.handle handle method args b) ∧
    (∀ e, program.decode = .error e →
      (s.level (n + 1)).evaluate running program bindings b = (.badProgram, b) ∧
      Status.badProgram.code = 1) := by
  intro b b'
  have hb : b.Steady := s.steady_actAll actions platform host counters
  refine ⟨(passes_evaluate hb).spans.depth, ?_, ?_, ?_, ?_, ?_, ?_, ?_⟩
  · intro source hdecode ended h o hnew
    rw [HandleTable.find?, get?_evaluate hb hdecode hnew]
    cases he : ended.handles.get? h with
    | none => simp
    | some e => by_cases hpins : 0 < e.pins <;> simp [hpins]
  · exact fun h e hnew he => pins_evaluate_pos hb hnew he
  · exact fun h o ho => kept_or_lost hb ho
  · exact fun r b₁ hserves => reaches_of_serves hserves
  · exact fun handle method args b₁ hcalls => returnsInto_of_calls hb hcalls
  · exact fun handle method args => returnsInto_depth hb handle method args
  · exact fun e hdecode => ⟨evaluate_of_undecodable hdecode, rfl⟩

end Setting
end ScriptBridge
