/-
  ScriptBridge/Proofs/Bridge/MethodCalls.lean
  ===========================================
  **Two ways for a script to call a method of an object.**

  A script writes `obj.m(a, b)`, or `invoke(obj, "m", [a, b])`.  The first is a
  function of the bridge that was put up for the name and the number of
  arguments, on behalf of all classes that the bridge had seen; the second looks
  the method up in the table of the receiver alone.  The functions of the first
  kind know nothing of the receiver, so that a call on an object whose class
  does not declare the name, or not for so many arguments, goes the same way as
  the second: it is refused by the table, or earlier, by an argument that cannot
  cross the bridge or by a stale handle.

  `method_call_agrees` says so of every name that is no global function, for the
  argument counts under which the name is put up.
-/
import ScriptBridge.Proofs.Bridge.Chronicle
import ScriptBridge.Proofs.Class.Arities
import ScriptBridge.Proofs.Class.Resolution

namespace ScriptBridge

/-! ### Which names can be called on a handle -/

namespace Natives

variable {n : Natives} {name : String} {arity : Nat}

theorem declares_iff :
    n.declares name = true ↔ ∃ t ∈ n.tables, ∃ m ∈ t.methods, m.name = name := by
  simp [declares]

theorem advertises_iff :
    n.advertises name arity = true ↔
      ∃ t ∈ n.tables, ∃ m ∈ t.methods,
        m.name = name ∧ arity ∈ MethodTable.declaredArities maxArity m := by
  simp only [advertises, List.any_eq_true, List.contains_iff_mem]
  constructor
  · rintro ⟨t, ht, harity⟩
    exact ⟨t, ht, MethodTable.mem_arities.mp harity⟩
  · rintro ⟨t, ht, hdeclared⟩
    exact ⟨t, ht, MethodTable.mem_arities.mpr hdeclared⟩

/-- A declared name that is no global function can be called with few arguments, and with as many as
    one of its declarations has parameters. -/
theorem offers_of_declared (hdeclared : n.declares name = true) (hglobal : name ∉ globalNames)
    (hcount : arity ≤ maxArity ∨
      ∃ t ∈ n.tables, ∃ m ∈ t.methods, m.name = name ∧ m.params.length = arity) :
    n.offers name arity = true := by
  rw [offers, Bool.or_eq_true]
  rcases hcount with hfew | ⟨t, ht, m, hm, hname, rfl⟩
  · exact Or.inr (by simp [hdeclared, hglobal, hfew])
  · refine Or.inl (advertises_iff.mpr ⟨t, ht, m, hm, hname, ?_⟩)
    exact MethodTable.length_params_mem_declaredArities maxArity m

theorem ne_of_not_global {other : String} (hglobal : name ∉ globalNames)
    (hother : other ∈ globalNames) : name ≠ other := by
  intro h
  exact hglobal (h ▸ hother)

/-- The function of the bridge that takes exactly these types after a handle, and comes before a method
    of the name. -/
def precedent? (name : String) (args : List Data) : Option Native :=
  match args with
  | [] => if name = "retain" then some .retain else none
  | [.string _, .array _] => if name = "invoke" then some .invoke else none
  | _ => none

theorem precedent?_eq_none {args : List Data} (hretain : ¬ (name = "retain" ∧ args = []))
    (hinvoke : ∀ method items, ¬ (name = "invoke" ∧ args = [.string method, .array items])) :
    precedent? name args = none := by
  unfold precedent?
  split
  · exact if_neg fun hname => hretain ⟨hname, rfl⟩
  · next method items => exact if_neg fun hname => hinvoke method items ⟨hname, rfl⟩
  · rfl

/-- On a handle, an offered name means the method of that name unless a function of the bridge comes
    before it. -/
theorem select_offered {args : List Data} (hoffers : n.offers name args.length = true)
    (h : ObjectHandle) :
    n.select name (.handle h :: args) = some ((precedent? name args).getD (.method name)) := by
  unfold select
  split
  · next h' rest heq =>
    obtain ⟨-, rfl⟩ := List.cons.inj heq
    split
    · unfold precedent?
      split
      · rfl
      · exact if_pos hoffers
    · unfold precedent?
      split
      · rfl
      · exact if_pos hoffers
    · next hnil hpair =>
      have hnone : precedent? name args = none :=
        precedent?_eq_none (fun hname => hnil hname.2) fun _ _ hname => hpair _ _ hname.2
      rw [if_pos hoffers, hnone, Option.getD_none]
  · next hnone => exact absurd rfl (hnone h args)

/-- On a handle, an offered name that is no global function means the method of that name. -/
theorem select_method (hglobal : name ∉ globalNames) {args : List Data}
    (hoffers : n.offers name args.length = true) (h : ObjectHandle) :
    n.select name (.handle h :: args) = some (.method name) := by
  have hretain : name ≠ "retain" := ne_of_not_global hglobal (by decide)
  have hinvoke : name ≠ "invoke" := ne_of_not_global hglobal (by decide)
  rw [select_offered hoffers, precedent?_eq_none (fun hname => hretain hname.1)
    fun _ _ hname => hinvoke hname.1, Option.getD_none]

/-- With a text and an array, `invoke` is never a method of a class. -/
theorem select_invoke (n : Natives) (h : ObjectHandle) (name : String) (args : List Data) :
    n.select "invoke" [.handle h, .string name, .array args] = some .invoke := by
  simp [select]

end Natives

/-! ### Calls and their outcomes -/

/-- As many values come out of a script as went in. -/
theorem Data.length_unmarshalAll {args : List Data} {values : List Value}
    (h : unmarshalAll args = .ok values) : values.length = args.length := by
  induction args generalizing values with
  | nil =>
    cases h
    rfl
  | cons d rest ih =>
    unfold unmarshalAll at h
    split at h
    · cases h
    · split at h
      · cases h
      · next others hrest =>
        cases h
        exact congrArg Nat.succ (ih hrest)

/-! ### Calls in the script language -/

namespace Eval

/-- How a call of a function of the bridge ends inside a script. -/
def ending : Except Data Data → Except Signal Data
  | .ok d => .ok d
  | .error d => .error (.thrown d false)

/-- A call that means a function of the bridge asks the bridge once and ends as it is told to, unless
    the language answers the call itself or prints the reply. -/
theorem run_callOutside_of_select {β : Type}
    {serve : (r : ScriptRequest) → β → ScriptRequest.Reply r × β} {known : Surroundings}
    {name : String} {args : List Data} {native : Native}
    (htype : ∀ d, ¬ (name = "type_of" ∧ args = [d])) (hprint : name ≠ "print" ∧ name ≠ "debug")
    (hselect : known.natives.select name args = some native) (place : Option Place)
    (vars : Variables) (b : β) :
    ((callOutside known name args place).run.run vars).run serve b =
      ((ending (serve (.call native args) b).1, vars), (serve (.call native args) b).2) := by
  unfold callOutside
  split
  · next d => exact absurd ⟨rfl, rfl⟩ (htype d)
  · simp only [hselect, hprint.1, hprint.2, or_self, if_false]
    -- The piece is one request, and what comes after it depends on the reply alone.
    change Interaction.run serve (.ask (.call native args) _) b = _
    rw [Interaction.run]
    rcases serve (.call native args) b with ⟨_ | _, b'⟩
    · rfl
    · rfl

theorem run_callOutside {β : Type} {serve : (r : ScriptRequest) → β → ScriptRequest.Reply r × β}
    {known : Surroundings} {name : String} {args : List Data} {native : Native}
    (hname : name ≠ "type_of" ∧ name ≠ "print" ∧ name ≠ "debug")
    (hselect : known.natives.select name args = some native) (place : Option Place)
    (vars : Variables) (b : β) :
    ((callOutside known name args place).run.run vars).run serve b =
      ((ending (serve (.call native args) b).1, vars), (serve (.call native args) b).2) :=
  run_callOutside_of_select (fun _ htype => hname.1 htype.1) hname.2 hselect place vars b

end Eval

namespace Setting

variable {σ η κ : Type} [DecidableEq κ] (s : Setting σ η κ) (inner : Reentry σ η κ)
  (running : List (ObjectRef κ))

/-- A call of a script that means a function of the bridge: what it returns or throws, and the state
    that it leaves. -/
def scriptCall (n : Natives) (name : String) (args : List Data) (b : BridgeState σ η κ) :
    Option (Except Data Data × BridgeState σ η κ) :=
  (n.select name args).map fun native => s.callNative inner running native args b

/-- What is thrown by a call of a method is the error of an operation, as a map. -/
theorem error_of_invokeScript {h : ObjectHandle} {name : String} {args : List Data}
    {b : BridgeState σ η κ} {d : Data}
    (hthrown : (s.invokeScript inner running h name args b).1 = .error d) :
    ∃ e : BridgeError, d = e.toData := by
  unfold invokeScript at hthrown
  split at hthrown
  · next e _ =>
    cases hthrown
    exact ⟨.marshal e, rfl⟩
  · simp only [reply] at hthrown
    split at hthrown
    · next e _ =>
      cases hthrown
      exact ⟨e, rfl⟩
    · split at hthrown
      · cases hthrown
      · next e _ =>
        cases hthrown
        exact ⟨.marshal e, rfl⟩

/-- A live receiver without a fitting declaration: nothing happens, and the caller is told that there
    is no such method, unless an argument cannot cross the bridge. -/
theorem invokeScript_of_unresolved {h : ObjectHandle} {o : ObjectRef κ} {name : String}
    {args : List Data} {b : BridgeState σ η κ} (ho : b.handles.find? h = some o)
    (hcount : ∀ m ∈ (s.tableOf o).methods, m.name = name → m.accepts args.length = false) :
    s.invokeScript inner running h name args b =
      (.error (match Data.unmarshalAll args with
        | .error e => BridgeError.marshal e
        | .ok _ => .methodNotFound (s.tableOf o).name name args.length).toData, b) := by
  unfold invokeScript
  cases hargs : Data.unmarshalAll args with
  | error e => rfl
  | ok values =>
    have hlength : values.length = args.length := Data.length_unmarshalAll hargs
    have hnone : (s.tableOf o).resolve? name values.length = none :=
      MethodTable.resolve?_eq_none_iff.mpr (hlength ▸ hcount)
    simp only [invokeOver, ho, MethodTable.call_of_unresolved hnone, hlength, reply]

/-- Calling a method with a dot and calling it through `invoke` is the same, for every handle, every
    declared name that is no global function, and up to twelve arguments or as many as a declaration of
    the name has parameters.  Both calls reach the bridge, return the same value or throw the same error
    of an operation, and leave the same state; in the script language they end alike too.  When the class
    of the receiver has no declaration of the name for so many arguments, nothing happens, and both
    report that there is no such method, unless an argument cannot cross the bridge. -/
theorem method_call_agrees (n : Natives) (b : BridgeState σ η κ) (h : ObjectHandle) {name : String}
    {args : List Data} (hdeclared : ∃ t ∈ n.tables, ∃ m ∈ t.methods, m.name = name)
    (hglobal : name ∉ Natives.globalNames)
    (hcount : args.length ≤ Natives.maxArity ∨
      ∃ t ∈ n.tables, ∃ m ∈ t.methods, m.name = name ∧ m.params.length = args.length) :
    ∃ outcome b',
      s.scriptCall inner running n name (.handle h :: args) b = some (outcome, b') ∧
      s.scriptCall inner running n "invoke" [.handle h, .string name, .array args] b =
        some (outcome, b') ∧
      (∀ d, outcome = .error d → ∃ e : BridgeError, d = e.toData) ∧
      (∀ o, b.handles.find? h = some o →
        (∀ m ∈ (s.tableOf o).methods, m.name = name → m.accepts args.length = false) →
        b' = b ∧
          outcome = .error (match Data.unmarshalAll args with
            | .error e => BridgeError.marshal e
            | .ok _ => .methodNotFound (s.tableOf o).name name args.length).toData) ∧
      (∀ (known : Surroundings) place place' vars, known.natives = n →
        ((Eval.callOutside known name (.handle h :: args) place).run.run vars).run
            (s.serveScript inner running) b = ((Eval.ending outcome, vars), b') ∧
        ((Eval.callOutside known "invoke" [.handle h, .string name, .array args] place').run.run
            vars).run (s.serveScript inner running) b = ((Eval.ending outcome, vars), b')) := by
  have hoffers : n.offers name args.length = true :=
    Natives.offers_of_declared (Natives.declares_iff.mpr hdeclared) hglobal hcount
  have hmethod := Natives.select_method hglobal hoffers h
  have hinvoke := Natives.select_invoke n h name args
  -- Both functions hand the handle, the name and the arguments on to the same call.
  refine ⟨(s.invokeScript inner running h name args b).1,
    (s.invokeScript inner running h name args b).2, ?_, ?_, ?_, ?_, ?_⟩
  · rw [scriptCall, hmethod]
    rfl
  · rw [scriptCall, hinvoke]
    rfl
  · intro d hthrown
    exact s.error_of_invokeScript inner running hthrown
  · intro o ho hrefused
    rw [s.invokeScript_of_unresolved inner running ho hrefused]
    exact ⟨rfl, rfl⟩
  · intro known place place' vars hknown
    subst hknown
    constructor
    · have hname : name ≠ "type_of" ∧ name ≠ "print" ∧ name ≠ "debug" :=
        ⟨Natives.ne_of_not_global hglobal (by decide), Natives.ne_of_not_global hglobal (by decide),
          Natives.ne_of_not_global hglobal (by decide)⟩
      exact Eval.run_callOutside hname hmethod place vars b
    · exact Eval.run_callOutside (by decide) hinvoke place' vars b

/-- A bridge on which the listening object is in reach. -/
def listening : BridgeState Recorder (List (List Value)) EchoClass :=
  ((BridgeState.initial .standard [] .first).adopt rehearsal.family echoObject).2

/-- The method `z` takes two arguments, so that both calls with one are told of no such method. -/
theorem method_call_agrees_wrongCount :
    let n : Natives := ⟨listening.classes.all⟩
    (∃ t ∈ n.tables, ∃ m ∈ t.methods, m.name = "z") ∧ "z" ∉ Natives.globalNames ∧
    [Data.int 1].length ≤ Natives.maxArity ∧
    rehearsal.scriptCall (rehearsal.level 1) [] n "z" [.handle ⟨1⟩, .int 1] listening =
      some (.error (BridgeError.methodNotFound "EchoHost" "z" 1).toData, listening) ∧
    rehearsal.scriptCall (rehearsal.level 1) [] n "invoke" [.handle ⟨1⟩, .string "z", .array [.int 1]]
      listening = some (.error (BridgeError.methodNotFound "EchoHost" "z" 1).toData, listening) := by
  intro n
  have hdeclared : ∃ t ∈ n.tables, ∃ m ∈ t.methods, m.name = "z" := by decide +kernel
  have hglobal : "z" ∉ Natives.globalNames := by decide
  have hfew : [Data.int 1].length ≤ Natives.maxArity := by decide
  have hobject : listening.handles.find? ⟨1⟩ = some echoObject := by decide +kernel
  have hrefused : ∀ m ∈ (rehearsal.tableOf echoObject).methods, m.name = "z" →
      m.accepts [Data.int 1].length = false := by decide +kernel
  obtain ⟨outcome, b', hdot, hinvoke, -, hcount, -⟩ :=
    method_call_agrees rehearsal (rehearsal.level 1) [] n listening ⟨1⟩ hdeclared hglobal (Or.inl hfew)
  obtain ⟨rfl, rfl⟩ := hcount echoObject hobject hrefused
  exact ⟨hdeclared, hglobal, hfew, hdot, hinvoke⟩

end Setting
end ScriptBridge
