/-
  ScriptBridge/Proofs/Bridge/ReservedNames.lean
  =============================================
  **Methods under the names of global functions.**

  A class may declare a method under one of the nine names that scripts also know
  as global functions.  Such a name keeps its declared argument counts, so that
  the method can be called with a dot where the class takes the arguments, and
  the global function everywhere else.

  Not every declared method is reached that way.  `retain` and `invoke` on a
  handle are put up for the very types of their arguments, and come before a
  method that is put up for any types (`precedent?`); the type of a handle is
  told by the language; and what stands after a dot is never `print` or `debug`.
  Through `invoke` with its name, the method is always reached.
-/
import ScriptBridge.Proofs.Bridge.MethodCalls
import ScriptBridge.Proofs.Handle.Lookup
import ScriptBridge.Rehearsal.Host
import ScriptBridge.Script.Run

namespace ScriptBridge

/-! ### What stands after a dot -/

namespace Parse

/-- Whatever the parser returns has the property. -/
def Yields {α : Type} (p : Parse α) (P : α → Prop) : Prop :=
  ∀ st a st', p.run st = some (a, st') → P a

namespace Yields

variable {α β : Type} {P : α → Prop} {Q : β → Prop}

theorem pure {a : α} (h : P a) : Yields (pure a) P := by
  intro st a' st' hrun
  cases hrun
  exact h

theorem failure : Yields (failure : Parse α) P := by
  intro st a st' hrun
  cases hrun

theorem bind {p : Parse α} {f : α → Parse β} (hp : p.Yields P) (hf : ∀ a, P a → (f a).Yields Q) :
    Yields (p >>= f) Q := by
  intro st b st'' hrun
  obtain ⟨⟨a, st'⟩, hfirst, hrest⟩ := Option.bind_eq_some_iff.mp hrun
  exact hf a (hp st a st' hfirst) st' b st'' hrest

/-- Nothing is known of what the first parser returns. -/
theorem andThen {p : Parse α} {f : α → Parse β} (hf : ∀ a, (f a).Yields Q) : Yields (p >>= f) Q :=
  bind (P := fun _ => True) (fun _ _ _ _ => True.intro) fun a _ => hf a

theorem require {c : Bool} {f : Unit → Parse β} (hf : c = true → (f ()).Yields Q) :
    Yields (Parse.require c >>= f) Q := by
  unfold Parse.require
  split
  · next hc => exact bind (pure hc) fun _ hc => hf hc
  · exact bind (P := fun _ => False) failure fun _ hno => hno.elim

end Yields

/-- A method that is called with a dot has a free name, or is one of the few words of the language that
    are called so. -/
theorem parseLinks_yields (fuel : Nat) (site : Site) (indices : Nat) :
    (parseLinks fuel site indices).Yields fun links => ∀ w args, Link.method w args ∈ links →
      Vocabulary.isFree w = true ∨ w ∈ Vocabulary.methodWords := by
  -- One access after the other: a method stands after a word that was looked at, and the accesses
  -- that follow are those of a shorter parse.
  induction fuel generalizing site indices with
  | zero => exact .failure
  | succ fuel ih =>
    unfold parseLinks
    refine .andThen fun dotted => ?_
    split
    · refine .andThen fun site => .andThen fun word => ?_
      split
      · refine .andThen fun opening => ?_
        split
        · refine .require fun hword => .andThen fun args => .bind (ih site 0) fun links hlinks =>
            .pure fun w args hmem => ?_
          rcases List.mem_cons.mp hmem with heq | hmem
          · obtain ⟨rfl, rfl⟩ := Link.method.inj heq
            simpa using hword
          · exact hlinks w args hmem
        · refine .require fun _ => .bind (ih site 0) fun links hlinks => .pure fun w args hmem => ?_
          exact hlinks w args ((List.mem_cons.mp hmem).resolve_left Link.noConfusion)
      · exact .failure
    · refine .andThen fun bracketed => ?_
      split
      · refine .andThen fun inner => .andThen fun e => .andThen fun _ =>
          .bind (ih site (indices + 1)) fun links hlinks => .pure fun w args hmem => ?_
        exact hlinks w args ((List.mem_cons.mp hmem).resolve_left Link.noConfusion)
      · exact .pure fun w args hmem => absurd hmem List.not_mem_nil

/-- No script prints with a dot. -/
theorem parseLinks_no_printing {name : String} (hprint : name = "print" ∨ name = "debug") (fuel : Nat)
    (site : Site) (indices : Nat) :
    (parseLinks fuel site indices).Yields fun links => ∀ args, Link.method name args ∉ links := by
  intro st links st' hrun args hmem
  have hword := parseLinks_yields fuel site indices st links st' hrun name args hmem
  rcases hprint with rfl | rfl
  · exact absurd hword (by decide)
  · exact absurd hword (by decide)

end Parse

/-! ### How a call with a dot runs -/

namespace Interaction

variable {Request : Type} {Reply : Request → Type} {α : Type}

theorem bind_done (x : Interaction Request Reply α) : x.bind .done = x := by
  induction x with
  | done a => rfl
  | ask r next ih => exact congrArg (Interaction.ask r) (funext ih)

theorem bind_bind {β γ : Type} (x : Interaction Request Reply α)
    (f : α → Interaction Request Reply β) (g : β → Interaction Request Reply γ) :
    (x.bind f).bind g = x.bind fun a => (f a).bind g := by
  induction x with
  | done a => rfl
  | ask r next ih => exact congrArg (Interaction.ask r) (funext ih)

instance : LawfulMonad (Interaction Request Reply) :=
  LawfulMonad.mk' _ bind_done (fun _ _ => rfl) bind_bind

end Interaction

namespace Eval

variable {known : Surroundings} {name : String} {args : List Data}

/-- A name that the script does not define itself is looked for outside. -/
theorem callOrOutside_eq {arity : Nat} (hown : known.function? name arity = none) (fuel : Nat)
    (own all : List Data) (place : Option Place) :
    callOrOutside (fuel + 1) known name arity own all place = callOutside known name all place := by
  rw [callOrOutside, hown]

/-- A call with a dot hands on the receiver before the arguments. -/
theorem follow_method (hown : known.function? name args.length = none) (fuel : Nat)
    (place : Option Place) (d : Data) :
    follow (fuel + 3) known place d [.method name args] =
      callOutside known name (d :: args) place := by
  simp only [follow, step, callOrOutside_eq hown, bind_assoc, pure_bind, bind_pure]

/-- The language tells the type of anything. -/
theorem run_callOutside_typeOf {β : Type}
    {serve : (r : ScriptRequest) → β → ScriptRequest.Reply r × β} (d : Data) (place : Option Place)
    (vars : Variables) (b : β) :
    ((callOutside known "type_of" [d] place).run.run vars).run serve b =
      ((.ok (.string d.typeName), vars), b) := rfl

end Eval

/-! ### Declared counts -/

namespace Natives

variable {n : Natives} {t : MethodTable} {m : MethodDecl} {arity : Nat}

/-- A declared name can be called for every count that its declaration takes, up to twelve if that is
    variadic. -/
theorem offers_of_accepts (ht : t ∈ n.tables) (hm : m ∈ t.methods) (haccepts : m.accepts arity = true)
    (hcount : m.rest = none ∨ arity ≤ maxArity) : n.offers m.name arity = true := by
  have hdeclared : arity ∈ MethodTable.declaredArities maxArity m := by
    rw [MethodTable.mem_declaredArities_iff]
    unfold MethodDecl.accepts at haccepts
    cases hrest : m.rest with
    | none =>
      rw [hrest] at haccepts
      exact beq_iff_eq.mp haccepts
    | some kind =>
      rw [hrest] at haccepts hcount
      have hfew : arity ≤ maxArity := hcount.resolve_left (Option.some_ne_none kind)
      exact ⟨of_decide_eq_true haccepts, Nat.le_trans hfew (Nat.le_max_left ..)⟩
  rw [offers, advertises_iff.mpr ⟨t, ht, m, hm, rfl, hdeclared⟩, Bool.true_or]

end Natives

/-! ### Calls on a handle -/

namespace Setting

variable {σ η κ : Type} [DecidableEq κ] (s : Setting σ η κ) (inner : Reentry σ η κ)
  (running : List (ObjectRef κ))

/-- What a script is given when a method of the table has run, and the state after it. -/
def answerTo (t : MethodTable) (name : String) :
    Except HostError (HostValue κ) × BridgeState σ η κ → Except Data Data × BridgeState σ η κ
  | (.error e, b) => (.error (t.failure name e).toData, b)
  | (.ok v, b) => (reply (.ok (b.lower s.family v).1), (b.lower s.family v).2)

/-- On a live handle, with arguments that cross the bridge and fit, the method runs. -/
theorem invokeScript_of_bound {h : ObjectHandle} {o : ObjectRef κ} {name : String} {args : List Data}
    {values : List Value} {m : MethodDecl} {index : Nat} {bound : Args} {b : BridgeState σ η κ}
    (ho : b.handles.find? h = some o) (hvalues : Data.unmarshalAll args = .ok values)
    (hresolve : (s.tableOf o).resolve? name values.length = some (m, index))
    (hbind : m.bind values = .ok bound) :
    s.invokeScript inner running h name args b =
      s.answerTo (s.tableOf o) name (s.runMethod inner running o index bound b) := by
  have hcall : (s.tableOf o).call name values (s.runMethod inner running o) b =
      ((s.runMethod inner running o index bound b).1.mapError ((s.tableOf o).failure name),
        (s.runMethod inner running o index bound b).2) := MethodTable.call_of_bound hresolve hbind
  simp only [invokeScript, hvalues, invokeOver, ho, hcall]
  rcases s.runMethod inner running o index bound b with ⟨_ | _, b'⟩
  · rfl
  · rfl

/-- What answers a call of a declared method, also under the name of a global function, on a live object
    of a class that the bridge had seen.  Through `invoke` it is the first declaration of the class that
    takes the arguments, and that runs whenever they cross the bridge and fit.  A call with a dot answers
    the same and leaves the same state, except in four cases: `retain` without arguments pins the
    receiver, and `invoke` with a text and an array calls the method that the text names; `type_of`
    without arguments tells the type of a handle and asks nothing; and no script calls `print` or `debug`
    with a dot. -/
theorem declared_method_calls (n : Natives) (b : BridgeState σ η κ) {h : ObjectHandle} {o : ObjectRef κ}
    {name : String} {args : List Data} {m : MethodDecl} (ho : b.handles.find? h = some o)
    (htable : s.tableOf o ∈ n.tables) (hm : m ∈ (s.tableOf o).methods) (hname : m.name = name)
    (haccepts : m.accepts args.length = true)
    (hcount : m.rest = none ∨ args.length ≤ Natives.maxArity) :
    let called := s.invokeScript inner running h name args b
    s.scriptCall inner running n "invoke" [.handle h, .string name, .array args] b = some called ∧
    (∃ first index, (s.tableOf o).methods[index]? = some first ∧ first.Fits name args.length ∧
      (∀ j < index, ∀ m', (s.tableOf o).methods[j]? = some m' → ¬ m'.Fits name args.length) ∧
      ∀ values bound, Data.unmarshalAll args = .ok values → first.bind values = .ok bound →
        called = s.answerTo (s.tableOf o) name (s.runMethod inner running o index bound b)) ∧
    ∃ outcome b', s.scriptCall inner running n name (.handle h :: args) b = some (outcome, b') ∧
      (¬ (name = "retain" ∧ args = []) →
        (∀ method items, ¬ (name = "invoke" ∧ args = [.string method, .array items])) →
        (outcome, b') = called) ∧
      (name = "retain" → args = [] → outcome = .ok (.bool true) ∧ b' = (b.retain h).2) ∧
      (∀ method items, name = "invoke" → args = [.string method, .array items] →
        (outcome, b') = s.invokeScript inner running h method items b) ∧
      (name = "print" ∨ name = "debug" → ∀ fuel site indices,
        (Parse.parseLinks fuel site indices).Yields fun links =>
          ∀ exprs, Link.method name exprs ∉ links) ∧
      (∀ (known : Surroundings) fuel place vars, known.natives = n →
        (known.function? "invoke" 3 = none → ∀ own,
          ((Eval.callOrOutside (fuel + 1) known "invoke" 3 own
            [.handle h, .string name, .array args] place).run.run vars).run
              (s.serveScript inner running) b = ((Eval.ending called.1, vars), called.2)) ∧
        (known.function? name args.length = none →
          (name = "type_of" → args = [] →
            ((Eval.follow (fuel + 3) known place (.handle h) [.method name args]).run.run vars).run
              (s.serveScript inner running) b = ((.ok (.string "HostObject"), vars), b)) ∧
          (name ≠ "print" → name ≠ "debug" → ¬ (name = "type_of" ∧ args = []) →
            ((Eval.follow (fuel + 3) known place (.handle h) [.method name args]).run.run vars).run
              (s.serveScript inner running) b = ((Eval.ending outcome, vars), b')))) := by
  intro called
  subst hname
  have hoffers := Natives.offers_of_accepts htable hm haccepts hcount
  have hselect := Natives.select_offered hoffers h
  have hinvoke := Natives.select_invoke n h m.name args
  obtain ⟨first, index, hresolve⟩ := MethodTable.exists_resolve?_iff.mpr ⟨m, hm, rfl, haccepts⟩
  obtain ⟨hfirst, hfits, hearlier⟩ := MethodTable.resolve?_eq_some_iff.mp hresolve
  obtain ⟨native, hnative⟩ : ∃ native, native = (Natives.precedent? m.name args).getD (.method m.name) :=
    ⟨_, rfl⟩
  rw [← hnative] at hselect
  refine ⟨by rw [scriptCall, hinvoke]; rfl, ⟨first, index, hfirst, hfits, hearlier, ?_⟩, ?_⟩
  · intro values bound hvalues hbind
    rw [← Data.length_unmarshalAll hvalues] at hresolve
    exact s.invokeScript_of_bound inner running ho hvalues hresolve hbind
  · refine ⟨_, _, by rw [scriptCall, hselect]; rfl, ?_, ?_, ?_, ?_, ?_⟩
    · intro hretain hreflect
      rw [Natives.precedent?_eq_none hretain hreflect, Option.getD_none] at hnative
      rw [hnative]
    · intro hretain hnil
      have hknown : (b.retain h).1 = true := by
        have hlive := HandleTable.isSome_find? b.handles h
        rw [ho] at hlive
        exact hlive.symm
      have hpin : native = .retain := by
        rw [hnative, hretain, hnil]
        rfl
      rw [hpin, hnil]
      exact ⟨congrArg (fun known => Except.ok (Data.bool known)) hknown, rfl⟩
    · intro method items hreflect hargs
      have hnamed : native = .invoke := by
        rw [hnative, hreflect, hargs]
        rfl
      rw [hnamed, hargs]
    · exact Parse.parseLinks_no_printing
    · rintro known fuel place vars rfl
      refine ⟨fun hown own => ?_, fun hown => ⟨fun htype hnil => ?_, fun hprint hdebug htype => ?_⟩⟩
      · rw [Eval.callOrOutside_eq hown]
        exact Eval.run_callOutside (by decide) hinvoke place vars b
      · rw [Eval.follow_method hown, htype, hnil]
        exact Eval.run_callOutside_typeOf _ place vars b
      · rw [Eval.follow_method hown]
        have hasked : ∀ d, ¬ (m.name = "type_of" ∧ Data.handle h :: args = [d]) :=
          fun _ hcall => htype ⟨hcall.1, (List.cons.inj hcall.2).2⟩
        exact Eval.run_callOutside_of_select hasked ⟨hprint, hdebug⟩ hselect place vars b

/-- A class with two methods under the names of global functions. -/
def shadowingPlan : Rehearsal.ClassPlan where
  fields := []
  methods := [(⟨"retain", [], none⟩, .answer (.string "mine")),
    (⟨"to_string", [], none⟩, .answer (.string "a text of its own"))]
  returnsCounter := false

/-- A setting with that class. -/
def shadowing : Setting Recorder Rehearsal.HostState Rehearsal.Role :=
  ⟨Recorder.platform .emptyDirectory, Rehearsal.host shadowingPlan, scriptLanguage, .standard, none⟩

/-- A bridge on which an object of the class is in reach. -/
def shadowed : BridgeState Recorder Rehearsal.HostState Rehearsal.Role :=
  ((BridgeState.initial .standard .initial .first).adopt shadowing.family (.host .planned 0)).2

/-- A text that the object has of itself is what both calls of `to_string` answer. -/
theorem declared_method_calls_toString :
    let n : Natives := ⟨shadowed.classes.all⟩
    let m : MethodDecl := ⟨"to_string", [], none⟩
    let called := shadowing.invokeScript (shadowing.level 1) [] ⟨1⟩ "to_string" [] shadowed
    shadowed.handles.find? ⟨1⟩ = some (.host .planned 0) ∧
    shadowing.tableOf (.host .planned 0) ∈ n.tables ∧
    m ∈ (shadowing.tableOf (.host .planned 0)).methods ∧ m.name = "to_string" ∧
    "to_string" ∈ Natives.globalNames ∧ m.accepts 0 = true ∧
    called.1 = .ok (.string "a text of its own") ∧
    shadowing.scriptCall (shadowing.level 1) [] n "invoke" [.handle ⟨1⟩, .string "to_string", .array []]
      shadowed = some called ∧
    shadowing.scriptCall (shadowing.level 1) [] n "to_string" [.handle ⟨1⟩] shadowed = some called := by
  intro n m called
  have hobject : shadowed.handles.find? ⟨1⟩ = some (.host .planned 0) := by decide +kernel
  have htable : shadowing.tableOf (.host .planned 0) ∈ n.tables := by decide +kernel
  have hm : m ∈ (shadowing.tableOf (.host .planned 0)).methods := by decide +kernel
  have haccepts : m.accepts ([] : List Data).length = true := rfl
  obtain ⟨hinvoke, -, outcome, b', hdot, hsame, -⟩ :=
    declared_method_calls shadowing (shadowing.level 1) [] n shadowed hobject htable hm rfl haccepts
      (Or.inl rfl)
  have hcalled : (outcome, b') = called := hsame (by decide) (by simp)
  rw [hcalled] at hdot
  exact ⟨hobject, htable, hm, rfl, by decide, haccepts, rfl, hinvoke, hdot⟩

/-- Called with a dot, the object's own `retain` does not run: its handle is pinned instead. -/
theorem declared_retain_not_called :
    let n : Natives := ⟨shadowed.classes.all⟩
    let m : MethodDecl := ⟨"retain", [], none⟩
    shadowed.handles.find? ⟨1⟩ = some (.host .planned 0) ∧
    shadowing.tableOf (.host .planned 0) ∈ n.tables ∧
    m ∈ (shadowing.tableOf (.host .planned 0)).methods ∧ m.name ∈ Natives.globalNames ∧
    m.accepts 0 = true ∧
    (shadowing.scriptCall (shadowing.level 1) [] n "invoke" [.handle ⟨1⟩, .string "retain", .array []]
      shadowed).map (fun called => called.1.toOption) = some (some (.string "mine")) ∧
    (shadowing.scriptCall (shadowing.level 1) [] n "retain" [.handle ⟨1⟩] shadowed).map
      (fun called => called.1.toOption) = some (some (.bool true)) ∧
    shadowing.scriptCall (shadowing.level 1) [] n "retain" [.handle ⟨1⟩] shadowed ≠
      shadowing.scriptCall (shadowing.level 1) [] n "invoke" [.handle ⟨1⟩, .string "retain", .array []]
        shadowed := by
  refine ⟨by decide +kernel, by decide +kernel, by decide +kernel, by decide, rfl, rfl, rfl, ?_⟩
  intro hsame
  have hanswers : some (some (Data.bool true)) = some (some (.string "mine")) :=
    congrArg (fun outcome => outcome.map fun called => called.1.toOption) hsame
  cases hanswers

end Setting
end ScriptBridge
