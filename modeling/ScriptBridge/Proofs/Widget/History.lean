/-
  ScriptBridge/Proofs/Widget/History.lean
  =======================================
  **What any number of calls make of the records of widgets.**

  A call runs as a program that works on the table in place: it looks its record
  up, writes the new stage, and then writes the new frame as a second statement.
  What a call can do is said once, in `perform_cases`: it is accepted and writes
  one record, or it is refused and writes nothing.  All that holds of a whole
  history follows from there by `Evolves`, which every call satisfies and which
  is transitive.
-/
import ScriptBridge.Proofs.Widget.Lookup

namespace ScriptBridge

/-- How far a widget has come in its life. -/
def WidgetState.stage : WidgetState → Nat
  | .unborn => 0
  | .created => 1
  | .placed => 2
  | .destroyed => 3

theorem WidgetState.stage_lt_of_allows {s s' : WidgetState} (h : s.allows s' = true) :
    s.stage < s'.stage := by
  revert h
  cases s <;> cases s' <;> decide

namespace WidgetTable

/-- A call on the table. -/
inductive Call where
  | create (id : WidgetId) (kind : WidgetKind) (frame : Frame) (name : Option String)
  | place (id : WidgetId) (frame : Frame)
  | destroy (id : WidgetId)

/-- Why a call failed: the two kinds of errors that the calls return. -/
inductive Refusal where
  | lifecycle (error : LifecycleError)
  | bridge (error : BridgeError)

namespace Call

/-- The id that the call is about. -/
def target : Call → WidgetId
  | .create id _ _ _ => id
  | .place id _ => id
  | .destroy id => id

/-- The stage that the call takes its widget to. -/
def aim : Call → WidgetState
  | .create .. => .created
  | .place .. => .placed
  | .destroy _ => .destroyed

/-- The table after the call, or why the call fails. -/
def apply (t : WidgetTable) : Call → Except Refusal WidgetTable
  | .create id kind frame name => (t.create id kind frame name).mapError .lifecycle
  | .place id frame => (t.place id frame).mapError .bridge
  | .destroy id => (t.destroy id).mapError .bridge

end Call

/-! ### Calls that work in place

A program that stops with an error leaves the table as it is at that point. -/

abbrev InPlace := EStateM Refusal WidgetTable

namespace InPlace

/-- The record of an id that has one. -/
def record (id : WidgetId) : InPlace WidgetRecord := do
  match (← get).find? id with
  | some r => pure r
  | none => throw (.bridge (.unknownWidget id))

/-- Writes the next stage of a record, and returns the record as it is then. -/
def advance (id : WidgetId) (r : WidgetRecord) (target : WidgetState) : InPlace WidgetRecord := do
  match r.state.advance id target with
  | .ok state =>
    let r' := { r with state := state }
    modify (·.set id r')
    pure r'
  | .error e => throw (.bridge (.eval e.message))

end InPlace

/-- The call as a program. -/
def Call.inPlace : Call → InPlace Unit
  | .create id kind frame name => do
    match ((← get).stateOf id).advance id .created with
    | .ok state => modify (·.set id ⟨kind, state, frame, name⟩)
    | .error e => throw (.lifecycle e)
  | .place id frame => do
    let r ← InPlace.record id
    let r' ← if r.state = .placed then pure r else InPlace.advance id r .placed
    modify (·.set id { r' with frame := frame })
  | .destroy id => do
    let r ← InPlace.record id
    let _ ← InPlace.advance id r .destroyed

/-- Runs a call on a table: what it returns, and the table it leaves. -/
def perform (t : WidgetTable) (call : Call) : EStateM.Result Refusal WidgetTable Unit :=
  call.inPlace.run t

variable {t t' t'' : WidgetTable}

namespace InPlace

@[simp] theorem run_throw {α : Type} (e : Refusal) (t : WidgetTable) :
    (throw e : InPlace α).run t = .error e t := rfl

theorem run_record {id : WidgetId} {r : WidgetRecord} (hr : t.find? id = some r) :
    (record id).run t = .ok r t := by
  simp [record, hr]

theorem run_record_none {id : WidgetId} (hnone : t.find? id = none) :
    (record id).run t = .error (.bridge (.unknownWidget id)) t := by
  simp [record, hnone]

theorem run_advance {id : WidgetId} {r : WidgetRecord} {target state : WidgetState}
    (ha : r.state.advance id target = .ok state) (t : WidgetTable) :
    (advance id r target).run t = .ok { r with state := state } (t.set id { r with state := state }) := by
  rw [advance, ha]
  rfl

theorem run_advance_error {id : WidgetId} {r : WidgetRecord} {target : WidgetState}
    {e : LifecycleError} (ha : r.state.advance id target = .error e) (t : WidgetTable) :
    (advance id r target).run t = .error (.bridge (.eval e.message)) t := by
  simp [advance, ha]

end InPlace

theorem set_set (t : WidgetTable) (id : WidgetId) (r r' : WidgetRecord) :
    (t.set id r).set id r' = t.set id r' :=
  congrArg WidgetTable.mk (Assoc.insert_insert id r r' t.records)

/-- Working in place comes to the same as computing the next table. -/
theorem perform_eq (t : WidgetTable) (call : Call) :
    t.perform call =
      match call.apply t with
      | .ok t' => .ok () t'
      | .error e => .error e t := by
  cases call with
  | create id kind frame name =>
    cases ha : (t.stateOf id).advance id .created with
    | ok state =>
      simp only [perform, Call.inPlace, Call.apply, create, ha, EStateM.run_bind, EStateM.run_get]
      rfl
    | error e =>
      simp only [perform, Call.inPlace, Call.apply, create, ha, EStateM.run_bind, EStateM.run_get]
      rfl
  | place id frame =>
    simp only [perform, Call.inPlace, Call.apply, place, EStateM.run_bind]
    cases hr : t.find? id with
    | none =>
      rw [InPlace.run_record_none hr]
      rfl
    | some r =>
      rw [InPlace.run_record hr]
      by_cases hplaced : r.state = .placed
      · simp only [if_pos hplaced]
        rfl
      · cases ha : r.state.advance id .placed with
        | ok state =>
          simp only [if_neg hplaced, EStateM.run_bind, InPlace.run_advance ha, EStateM.run_modify,
            set_set, ha]
          rfl
        | error e =>
          simp only [if_neg hplaced, EStateM.run_bind, InPlace.run_advance_error ha, ha]
          rfl
  | destroy id =>
    simp only [perform, Call.inPlace, Call.apply, destroy, EStateM.run_bind]
    cases hr : t.find? id with
    | none =>
      rw [InPlace.run_record_none hr]
      rfl
    | some r =>
      rw [InPlace.run_record hr]
      cases ha : r.state.advance id .destroyed with
      | ok state =>
        simp only [InPlace.run_advance ha, ha]
        rfl
      | error e =>
        simp only [InPlace.run_advance_error ha, ha]
        rfl

/-! ### What one call does -/

/-- The call is accepted and writes this record. -/
inductive Call.Accepted (t : WidgetTable) : Call → WidgetRecord → Prop
  | create {id : WidgetId} {kind : WidgetKind} {frame : Frame} {name : Option String}
      (hnone : t.find? id = none) : Accepted t (.create id kind frame name) ⟨kind, .created, frame, name⟩
  | place {id : WidgetId} {frame : Frame} {r : WidgetRecord} (hr : t.find? id = some r)
      (hlive : r.state.isLive = true) :
      Accepted t (.place id frame) { r with state := .placed, frame := frame }
  | destroy {id : WidgetId} {r : WidgetRecord} (hr : t.find? id = some r)
      (hlive : r.state.isLive = true) : Accepted t (.destroy id) { r with state := .destroyed }

/-- The call is refused for this reason. -/
inductive Call.Refused (t : WidgetTable) : Call → Refusal → Prop
  | taken {id : WidgetId} {kind : WidgetKind} {frame : Frame} {name : Option String}
      {r : WidgetRecord} (hr : t.find? id = some r) :
      Refused t (.create id kind frame name) (.lifecycle ⟨id, r.state, .created⟩)
  | unknown {call : Call} (haim : call.aim ≠ .created) (hnone : t.find? call.target = none) :
      Refused t call (.bridge (.unknownWidget call.target))
  | destroyed {call : Call} {r : WidgetRecord} (haim : call.aim ≠ .created)
      (hr : t.find? call.target = some r) (hdead : r.state = .destroyed) :
      Refused t call (.bridge (.eval (LifecycleError.message ⟨call.target, .destroyed, call.aim⟩)))

/-- Every record is of a widget that was created. -/
def Born (t : WidgetTable) : Prop := ∀ id r, t.find? id = some r → r.state ≠ .unborn

theorem born_empty : empty.Born := by
  intro id r hr
  cases hr

theorem Born.live_or_destroyed (ht : t.Born) {id : WidgetId} {r : WidgetRecord}
    (hr : t.find? id = some r) : r.state.isLive = true ∨ r.state = .destroyed := by
  have hborn := ht id r hr
  revert hborn
  cases r.state <;> simp [WidgetState.isLive]

theorem Call.accepted_or_refused (ht : t.Born) (call : Call) :
    (∃ r, call.Accepted t r) ∨ ∃ e, call.Refused t e := by
  cases hr : t.find? call.target with
  | none =>
    by_cases haim : call.aim = .created
    · cases call with
      | create => exact .inl ⟨_, .create hr⟩
      | place => cases haim
      | destroy => cases haim
    · exact .inr ⟨_, .unknown haim hr⟩
  | some r =>
    cases call with
    | create => exact .inr ⟨_, .taken hr⟩
    | place id frame =>
      rcases ht.live_or_destroyed hr with hlive | hdead
      · exact .inl ⟨_, .place hr hlive⟩
      · exact .inr ⟨_, .destroyed (by simp [aim]) hr hdead⟩
    | destroy id =>
      rcases ht.live_or_destroyed hr with hlive | hdead
      · exact .inl ⟨_, .destroy hr hlive⟩
      · exact .inr ⟨_, .destroyed (by simp [aim]) hr hdead⟩

theorem Call.Accepted.apply_eq {call : Call} {r : WidgetRecord} (h : call.Accepted t r) :
    call.apply t = .ok (t.set call.target r) := by
  cases h with
  | create hnone =>
    rw [Call.apply, create_of_unborn (stateOf_of_find?_none hnone)]
    rfl
  | place hr hlive =>
    rw [Call.apply, place_of_live hr hlive]
    rfl
  | destroy hr hlive =>
    rw [Call.apply, destroy_of_live hr hlive]
    rfl

theorem Call.Refused.apply_eq (ht : t.Born) {call : Call} {e : Refusal} (h : call.Refused t e) :
    call.apply t = .error e := by
  cases h with
  | @taken id _ _ _ r hr =>
    have hstep : r.state.advance id .created = .error ⟨id, r.state, .created⟩ := by
      have hborn := ht id r hr
      revert hborn
      cases r.state <;> simp [WidgetState.advance, WidgetState.allows]
    rw [Call.apply, WidgetTable.create, stateOf_of_find? hr, hstep]
    rfl
  | unknown haim hnone =>
    cases call with
    | create => exact absurd rfl haim
    | place id frame =>
      rw [Call.apply, WidgetTable.place, show t.find? id = none from hnone]
      rfl
    | destroy id =>
      rw [Call.apply, WidgetTable.destroy, show t.find? id = none from hnone]
      rfl
  | @destroyed _ r haim hr hdead =>
    have hstep : ∀ id target, r.state.advance id target = .error ⟨id, .destroyed, target⟩ := by
      intro id target
      rw [hdead]
      cases target <;> rfl
    cases call with
    | create => exact absurd rfl haim
    | place id frame =>
      have hplaced : r.state ≠ .placed := by simp [hdead]
      simp only [Call.apply, WidgetTable.place, show t.find? id = some r from hr, if_neg hplaced, hstep]
      rfl
    | destroy id =>
      simp only [Call.apply, WidgetTable.destroy, show t.find? id = some r from hr, hstep]
      rfl

theorem perform_of_accepted {call : Call} {r : WidgetRecord} (h : call.Accepted t r) :
    t.perform call = .ok () (t.set call.target r) := by
  rw [perform_eq, h.apply_eq]

theorem perform_of_refused (ht : t.Born) {call : Call} {e : Refusal} (h : call.Refused t e) :
    t.perform call = .error e t := by
  rw [perform_eq, h.apply_eq ht]

/-- Everything that a call can do. -/
theorem perform_cases (ht : t.Born) (call : Call) :
    (∃ r, call.Accepted t r ∧ t.perform call = .ok () (t.set call.target r)) ∨
      ∃ e, call.Refused t e ∧ t.perform call = .error e t := by
  rcases call.accepted_or_refused ht with ⟨r, hr⟩ | ⟨e, he⟩
  · exact .inl ⟨r, hr, perform_of_accepted hr⟩
  · exact .inr ⟨e, he, perform_of_refused ht he⟩

theorem perform_eq_ok_iff (ht : t.Born) {call : Call} :
    t.perform call = .ok () t' ↔ ∃ r, call.Accepted t r ∧ t' = t.set call.target r := by
  constructor
  · intro h
    rcases perform_cases ht call with ⟨r, hr, hok⟩ | ⟨e, _, herror⟩
    · rw [hok] at h
      cases h
      exact ⟨r, hr, rfl⟩
    · rw [herror] at h
      cases h
  · rintro ⟨r, hr, rfl⟩
    exact perform_of_accepted hr

theorem perform_eq_error_iff (ht : t.Born) {call : Call} {e : Refusal} :
    t.perform call = .error e t' ↔ call.Refused t e ∧ t' = t := by
  constructor
  · intro h
    rcases perform_cases ht call with ⟨r, _, hok⟩ | ⟨e', he', herror⟩
    · rw [hok] at h
      cases h
    · rw [herror] at h
      cases h
      exact ⟨he', rfl⟩
  · rintro ⟨he, rfl⟩
    exact perform_of_refused ht he

/-! ### What stays from one table to a later one -/

/-- A later table: its widgets have come at least as far, every record is still there with its kind
    and its name, and the record of a destroyed widget is the one it was. -/
structure Evolves (t t' : WidgetTable) : Prop where
  forward : ∀ id, (t.stateOf id).stage ≤ (t'.stateOf id).stage
  kept : ∀ id r, t.find? id = some r →
    ∃ r', t'.find? id = some r' ∧ r'.kind = r.kind ∧ r'.name = r.name
  frozen : ∀ id r, t.find? id = some r → r.state = .destroyed → t'.find? id = some r

theorem Evolves.refl (t : WidgetTable) : Evolves t t where
  forward _ := Nat.le_refl _
  kept _ r hr := ⟨r, hr, rfl, rfl⟩
  frozen _ _ hr _ := hr

theorem Evolves.trans (h : Evolves t t') (h' : Evolves t' t'') : Evolves t t'' where
  forward id := Nat.le_trans (h.forward id) (h'.forward id)
  kept id r hr := by
    obtain ⟨r', hr', hkind, hname⟩ := h.kept id r hr
    obtain ⟨r'', hr'', hkind', hname'⟩ := h'.kept id r' hr'
    exact ⟨r'', hr'', hkind'.trans hkind, hname'.trans hname⟩
  frozen id r hr hdead := h'.frozen id r (h.frozen id r hr hdead) hdead

theorem stateOf_set (t : WidgetTable) (id id' : WidgetId) (r : WidgetRecord) :
    (t.set id r).stateOf id' = if id = id' then r.state else t.stateOf id' := by
  by_cases hid : id = id' <;> simp [stateOf, find?_set, hid]

/-- What an accepted call writes stands at an allowed step, or where it stood if a widget that is
    placed is placed again. -/
theorem Call.Accepted.step {call : Call} {r : WidgetRecord} (h : call.Accepted t r) :
    (t.stateOf call.target).allows r.state = true ∨
      (r.state = t.stateOf call.target ∧ call.aim = .placed) := by
  cases h with
  | create hnone =>
    have hstate := stateOf_of_find?_none hnone
    exact .inl (by simp [Call.target, hstate, WidgetState.allows])
  | place hr hlive =>
    rw [Call.target, stateOf_of_find? hr]
    rcases WidgetState.isLive_iff.mp hlive with hs | hs
    · exact .inl (by simp [hs, WidgetState.allows])
    · exact .inr ⟨hs.symm, rfl⟩
  | destroy hr hlive =>
    rw [Call.target, stateOf_of_find? hr]
    rcases WidgetState.isLive_iff.mp hlive with hs | hs <;>
      exact .inl (by simp [hs, WidgetState.allows])

/-- An accepted call writes over no destroyed widget, and keeps the kind and the name. -/
theorem Call.Accepted.over {call : Call} {r old : WidgetRecord} (h : call.Accepted t r)
    (hold : t.find? call.target = some old) :
    old.state ≠ .destroyed ∧ r.kind = old.kind ∧ r.name = old.name := by
  cases h with
  | create hnone =>
    rw [Call.target, hnone] at hold
    cases hold
  | place hr hlive =>
    rw [Call.target, hr] at hold
    cases hold
    exact ⟨fun hdead => by simp [hdead, WidgetState.isLive] at hlive, rfl, rfl⟩
  | destroy hr hlive =>
    rw [Call.target, hr] at hold
    cases hold
    exact ⟨fun hdead => by simp [hdead, WidgetState.isLive] at hlive, rfl, rfl⟩

theorem Call.Accepted.evolves {call : Call} {r : WidgetRecord} (h : call.Accepted t r) :
    Evolves t (t.set call.target r) where
  forward id := by
    rw [stateOf_set]
    split
    · next hid =>
      rw [← hid]
      rcases h.step with hallows | ⟨heq, -⟩
      · exact Nat.le_of_lt (WidgetState.stage_lt_of_allows hallows)
      · exact Nat.le_of_eq (congrArg WidgetState.stage heq.symm)
    · exact Nat.le_refl _
  kept id old hold := by
    rw [find?_set]
    split
    · next hid =>
      subst hid
      exact ⟨r, rfl, (h.over hold).2⟩
    · exact ⟨old, hold, rfl, rfl⟩
  frozen id old hold hdead := by
    rw [find?_set, if_neg, hold]
    rintro rfl
    exact (h.over hold).1 hdead

theorem Call.Accepted.born {call : Call} {r : WidgetRecord} (h : call.Accepted t r) (ht : t.Born) :
    (t.set call.target r).Born := by
  intro id r' hr'
  rw [find?_set] at hr'
  split at hr'
  · cases hr'
    cases h <;> simp
  · exact ht id r' hr'

/-! ### Any number of calls -/

/-- The table that a call leaves, whether it succeeded or failed. -/
def after (t : WidgetTable) (call : Call) : WidgetTable :=
  match t.perform call with
  | .ok () t' => t'
  | .error _ t' => t'

/-- The table that calls leave, one after the other. -/
def afterAll (t : WidgetTable) (calls : List Call) : WidgetTable := calls.foldl after t

theorem after_cases (ht : t.Born) (call : Call) :
    t.after call = t ∨ ∃ r, call.Accepted t r ∧ t.after call = t.set call.target r := by
  rcases perform_cases ht call with ⟨r, hr, hok⟩ | ⟨e, _, herror⟩
  · exact .inr ⟨r, hr, by rw [after, hok]⟩
  · exact .inl (by rw [after, herror])

theorem born_after (ht : t.Born) (call : Call) : (t.after call).Born := by
  rcases after_cases ht call with hsame | ⟨r, hr, hset⟩
  · rwa [hsame]
  · rw [hset]
    exact hr.born ht

theorem evolves_after (ht : t.Born) (call : Call) : Evolves t (t.after call) := by
  rcases after_cases ht call with hsame | ⟨r, hr, hset⟩
  · rw [hsame]
    exact .refl t
  · rw [hset]
    exact hr.evolves

theorem born_afterAll (ht : t.Born) (calls : List Call) : (t.afterAll calls).Born := by
  induction calls generalizing t with
  | nil => exact ht
  | cons call rest ih => exact ih (born_after ht call)

theorem evolves_afterAll (ht : t.Born) (calls : List Call) : Evolves t (t.afterAll calls) := by
  induction calls generalizing t with
  | nil => exact .refl t
  | cons call rest ih => exact (evolves_after ht call).trans (ih (born_after ht call))

theorem stateOf_eq_unborn_iff (ht : t.Born) {id : WidgetId} :
    t.stateOf id = .unborn ↔ t.find? id = none := by
  refine ⟨fun hstate => ?_, stateOf_of_find?_none⟩
  cases hr : t.find? id with
  | none => rfl
  | some r => exact absurd (stateOf_of_find? hr ▸ hstate) (ht id r hr)

theorem find?_after_of_ne (ht : t.Born) {call : Call} {id : WidgetId} (hid : id ≠ call.target) :
    (t.after call).find? id = t.find? id := by
  rcases after_cases ht call with hsame | ⟨r, _, hset⟩
  · rw [hsame]
  · rw [hset, find?_set, if_neg (Ne.symm hid)]

theorem stateOf_after (ht : t.Born) (call : Call) (id : WidgetId) :
    (t.after call).stateOf id = t.stateOf id ∨
      (t.stateOf id).allows ((t.after call).stateOf id) = true := by
  rcases after_cases ht call with hsame | ⟨r, hr, hset⟩
  · exact .inl (by rw [hsame])
  · rw [hset, stateOf_set]
    split
    · next hid =>
      rw [← hid]
      exact hr.step.symm.imp_left And.left
    · exact .inl rfl

/-- The table that calls make of an empty one. -/
def ofCalls (calls : List Call) : WidgetTable := empty.afterAll calls

theorem ofCalls_append (calls more : List Call) :
    ofCalls (calls ++ more) = (ofCalls calls).afterAll more := List.foldl_append

theorem born_ofCalls (calls : List Call) : (ofCalls calls).Born := born_afterAll born_empty calls

/-- After any calls, a call that works in place does what the table's operation says.  It fails in
    three cases only and changes nothing then; else it writes the one record that is its own.  No widget
    ever leaves the order of the stages, and whatever follows lets every record live on: with its kind
    and its name, and once destroyed as a whole. -/
theorem widget_histories (past later : List Call) (call : Call) :
    ((ofCalls past).perform call =
      match call.apply (ofCalls past) with
      | .ok t' => .ok () t'
      | .error e => .error e (ofCalls past)) ∧
    (∀ e t', (ofCalls past).perform call = .error e t' ↔
      call.Refused (ofCalls past) e ∧ t' = ofCalls past) ∧
    (∀ t', (ofCalls past).perform call = .ok () t' ↔
      ∃ r, call.Accepted (ofCalls past) r ∧ t' = (ofCalls past).set call.target r) ∧
    (∀ id, id ≠ call.target → (ofCalls (past ++ [call])).find? id = (ofCalls past).find? id) ∧
    (∀ id, (ofCalls past).stateOf id = .unborn ↔ (ofCalls past).find? id = none) ∧
    (∀ id, (ofCalls (past ++ [call])).stateOf id = (ofCalls past).stateOf id ∨
      ((ofCalls past).stateOf id).allows ((ofCalls (past ++ [call])).stateOf id) = true) ∧
    Evolves (ofCalls past) (ofCalls (past ++ later)) := by
  have hborn : (ofCalls past).Born := born_ofCalls past
  have hnext : ofCalls (past ++ [call]) = (ofCalls past).after call := ofCalls_append past [call]
  rw [hnext, ofCalls_append past later]
  exact ⟨perform_eq _ call, fun e t' => perform_eq_error_iff hborn, fun t' => perform_eq_ok_iff hborn,
    fun id => find?_after_of_ne hborn, fun id => stateOf_eq_unborn_iff hborn,
    stateOf_after hborn call, evolves_afterAll hborn later⟩

end WidgetTable
end ScriptBridge
