/-
  ScriptBridge/Proofs/Class/Binding.lean
  ======================================
  **What a host method receives.**

  A declaration that takes a call has a kind for each of its arguments: those of
  the parameters, and that of the rest for every surplus one.  Resolution only
  counts the arguments, binding takes them one after the other; they agree
  because there are as many kinds as arguments (`length_kinds`), so binding never
  runs out of arguments and never has one left over.  What it does is then one
  equation (`bind_eq`): the first argument that its kind refuses is reported, and
  if there is none, each arrives as its kind receives it.

  A call is watched by an adapter that notes what it runs (`noting`).
-/
import ScriptBridge.Proofs.Class.Resolution

namespace ScriptBridge

/-! ### One argument -/

namespace ParamKind

/-- The values that a parameter of the kind accepts. -/
def accepts : ParamKind → Value → Bool
  | .any, _ => true
  | .bool, .bool _ => true
  | .int, .int _ => true
  | .float, .int _ => true
  | .float, .float _ => true
  | .number, .int _ => true
  | .number, .float _ => true
  | .string, .string _ => true
  | .bytes, .bytes _ => true
  | .bytes, .string _ => true
  | .list, .list _ => true
  | .map, .map _ => true
  | .object, .object _ => true
  | _, _ => false

/-- What becomes of a value: a float parameter widens a word, a bytes parameter takes the octets of a
    text, and nothing else changes. -/
def received : ParamKind → Value → Value
  | .float, .int n => .float (Double.ofInt n.toInt)
  | .bytes, .string s => .bytes (Utf8.octets s)
  | _, v => v

/-- The accessors that are for arguments of the kind. -/
def readings : ParamKind → List Args.Reading
  | .int => [.value, .int]
  | .float => [.value, .float]
  | .string => [.value, .string, .optionalString]
  | .list => [.value, .list]
  | .map => [.value, .map]
  | .object => [.value, .object]
  | .any | .bool | .number | .bytes => [.value]

/-- What is reported of a value that the kind refuses. -/
def mismatch (kind : ParamKind) (v : Value) : MarshalError := .kindMismatch kind.name v.typeName

theorem coerce_eq (kind : ParamKind) (v : Value) :
    kind.coerce v = if kind.accepts v then .ok (kind.received v) else .error (kind.mismatch v) := by
  cases kind <;> cases v <;> rfl

end ParamKind

namespace Args

variable {args : Args} {index : Nat} {v : Value}

/-- The accessors for a kind read what a parameter of the kind received. -/
theorem read_eq_ok {kind : ParamKind} (haccepts : kind.accepts v = true)
    (hv : args.values[index]? = some (kind.received v)) {reading : Reading}
    (hreading : reading ∈ kind.readings) : args.read index reading = .ok (kind.received v) := by
  revert reading
  -- Only the pairs that fit remain, and there the accessors take the value as it is.
  cases kind <;> cases v <;> simp only [ParamKind.accepts, Bool.false_eq_true] at haccepts <;>
    simp only [ParamKind.received] at hv ⊢ <;>
    simp [ParamKind.readings, read, int, float, string, string?, list, map, object, view, value, hv,
      Value.asInt?, Value.asFloat?, Value.asString?, Value.asList?, Value.asMap?, Value.asObject?,
      Except.map]

end Args

/-! ### All arguments -/

/-- The first value, if any, that its kind refuses. -/
def firstRefused (kinds : List ParamKind) (values : List Value) : Option (ParamKind × Value) :=
  (kinds.zip values).find? fun e => !e.1.accepts e.2

/-- What becomes of values, each under its own kind. -/
def receivedAll (kinds : List ParamKind) (values : List Value) : List Value :=
  List.zipWith ParamKind.received kinds values

/-- Values coerced each to its own kind, from the left. -/
def coerceEach (kinds : List ParamKind) (values : List Value) : Except MarshalError (List Value) :=
  match firstRefused kinds values with
  | some (kind, v) => .error (kind.mismatch v)
  | none => .ok (receivedAll kinds values)

section Coercing

variable {kind : ParamKind} {kinds kinds' : List ParamKind} {v : Value} {values values' : List Value}

theorem firstRefused_cons_of_accepts (h : kind.accepts v = true) :
    firstRefused (kind :: kinds) (v :: values) = firstRefused kinds values := by
  simp [firstRefused, h]

theorem firstRefused_cons_of_refuses (h : kind.accepts v = false) :
    firstRefused (kind :: kinds) (v :: values) = some (kind, v) := by
  simp [firstRefused, h]

/-- The first value goes before the others. -/
theorem coerceEach_cons (kind : ParamKind) (kinds : List ParamKind) (v : Value) (values : List Value) :
    coerceEach (kind :: kinds) (v :: values) =
      match kind.coerce v with
      | .error e => .error e
      | .ok bound =>
        match coerceEach kinds values with
        | .error e => .error e
        | .ok others => .ok (bound :: others) := by
  rw [ParamKind.coerce_eq, coerceEach]
  cases h : kind.accepts v with
  | false => rw [firstRefused_cons_of_refuses h]; rfl
  | true =>
    rw [firstRefused_cons_of_accepts h, coerceEach]
    cases firstRefused kinds values <;> rfl

theorem length_coerceEach (h : kinds.length = values.length)
    (hbound : coerceEach kinds values = .ok values') : values'.length = kinds.length := by
  rw [coerceEach] at hbound
  split at hbound
  · cases hbound
  · cases hbound
    rw [receivedAll, List.length_zipWith, h, Nat.min_self]

theorem coerceEach_append (h : kinds.length = values.length) :
    coerceEach (kinds ++ kinds') (values ++ values') =
      match coerceEach kinds values with
      | .error e => .error e
      | .ok bound =>
        match coerceEach kinds' values' with
        | .error e => .error e
        | .ok others => .ok (bound ++ others) := by
  have hrefused : firstRefused (kinds ++ kinds') (values ++ values') =
      (firstRefused kinds values).or (firstRefused kinds' values') := by
    rw [firstRefused, List.zip_append h, List.find?_append]
    rfl
  have hreceived : receivedAll (kinds ++ kinds') (values ++ values') =
      receivedAll kinds values ++ receivedAll kinds' values' := List.zipWith_append h
  rw [coerceEach, coerceEach, coerceEach, hrefused, hreceived]
  cases firstRefused kinds values with
  | some refused => rfl
  | none => cases firstRefused kinds' values' <;> rfl

theorem coerceAll_eq (kind : ParamKind) (values : List Value) :
    MethodDecl.coerceAll kind values = coerceEach (List.replicate values.length kind) values := by
  induction values with
  | nil => rfl
  | cons v rest ih =>
    rw [List.length_cons, List.replicate_succ, coerceEach_cons, ← ih]
    rfl

/-- With an argument for each parameter, none is missing, and the others are left over. -/
theorem bindParams_eq (index : Nat) (h : kinds.length ≤ values.length) :
    MethodDecl.bindParams index kinds values =
      match coerceEach kinds (values.take kinds.length) with
      | .error e => .error e
      | .ok bound => .ok (bound, values.drop kinds.length) := by
  induction kinds generalizing index values with
  | nil => rfl
  | cons kind kinds ih =>
    cases values with
    | nil => exact absurd h (by simp)
    | cons v values =>
      have hrest := ih (index + 1) (Nat.le_of_succ_le_succ h)
      rw [MethodDecl.bindParams, hrest, List.length_cons, List.take_succ_cons, List.drop_succ_cons,
        coerceEach_cons]
      cases kind.coerce v with
      | error e => rfl
      | ok bound => cases coerceEach kinds (values.take kinds.length) <;> rfl

/-- The value that is reported is the first that its kind refuses. -/
theorem firstRefused_eq_some_iff :
    firstRefused kinds values = some (kind, v) ↔
      ∃ i : Nat, kinds[i]? = some kind ∧ values[i]? = some v ∧ kind.accepts v = false ∧
        ∀ j : Nat, j < i → ∀ (kind' : ParamKind) (v' : Value), kinds[j]? = some kind' →
          values[j]? = some v' → kind'.accepts v' = true := by
  rw [firstRefused, List.find?_eq_some_iff_getElem, Bool.not_eq_true']
  constructor
  · rintro ⟨hrefused, i, hi, hentry, hearlier⟩
    rw [List.getElem_zip] at hentry
    rw [List.length_zip] at hi
    obtain ⟨rfl, rfl⟩ := Prod.mk.inj hentry
    refine ⟨i, List.getElem?_eq_getElem _, List.getElem?_eq_getElem _, hrefused, ?_⟩
    intro j hj kind' v' hkind hv
    obtain ⟨-, rfl⟩ := List.getElem?_eq_some_iff.mp hkind
    obtain ⟨-, rfl⟩ := List.getElem?_eq_some_iff.mp hv
    simpa using hearlier j hj
  · rintro ⟨i, hkind, hv, hrefused, hearlier⟩
    obtain ⟨hi, rfl⟩ := List.getElem?_eq_some_iff.mp hkind
    obtain ⟨hi', rfl⟩ := List.getElem?_eq_some_iff.mp hv
    have hzip : i < (kinds.zip values).length := by
      rw [List.length_zip]
      omega
    refine ⟨hrefused, i, hzip, List.getElem_zip, fun j hj => ?_⟩
    have hbefore := hearlier j hj _ _ (List.getElem?_eq_getElem (Nat.lt_trans hj hi))
      (List.getElem?_eq_getElem (Nat.lt_trans hj hi'))
    simpa using hbefore

theorem firstRefused_eq_none_iff :
    firstRefused kinds values = none ↔
      ∀ (i : Nat) (kind : ParamKind) (v : Value), kinds[i]? = some kind → values[i]? = some v →
        kind.accepts v = true := by
  rw [firstRefused, List.find?_eq_none]
  constructor
  · intro h i kind v hkind hv
    have hentry : (kind, v) ∈ kinds.zip values := by
      refine List.mem_of_getElem? (i := i) ?_
      rw [List.getElem?_zip_eq_some]
      exact ⟨hkind, hv⟩
    simpa using h _ hentry
  · rintro h ⟨kind, v⟩ hentry
    obtain ⟨i, hi⟩ := List.mem_iff_getElem?.mp hentry
    obtain ⟨hkind, hv⟩ := List.getElem?_zip_eq_some.mp hi
    simpa using h i kind v hkind hv

end Coercing

/-! ### Declarations -/

namespace MethodDecl

variable {m : MethodDecl} {name : String} {arity : Nat} {values : List Value}

/-- The kinds of so many arguments: those of the parameters, and that of the rest for all others. -/
def kinds (m : MethodDecl) (arity : Nat) : List ParamKind :=
  m.params ++
    match m.rest with
    | none => []
    | some kind => List.replicate (arity - m.params.length) kind

/-- What arrives of coerced arguments: the surplus ones of a variadic method as one list. -/
def pack (m : MethodDecl) (bound : List Value) : List Value :=
  match m.rest with
  | none => bound
  | some _ => bound.take m.params.length ++ [.list (bound.drop m.params.length)]

/-- What arrived, with the items of the last list in its place for a variadic method. -/
def unpack (m : MethodDecl) (arrived : List Value) : List Value :=
  match m.rest, arrived[m.params.length]? with
  | some _, some (.list items) => arrived.take m.params.length ++ items
  | _, _ => arrived

/-- A declaration that takes a call has a kind for each of its arguments. -/
theorem length_kinds (h : m.accepts arity = true) : (m.kinds arity).length = arity := by
  unfold kinds
  unfold accepts at h
  cases hrest : m.rest with
  | none =>
    rw [hrest] at h
    simp only [beq_iff_eq] at h
    simp [h]
  | some kind =>
    rw [hrest] at h
    simp only [decide_eq_true_eq] at h
    rw [List.length_append, List.length_replicate]
    omega

theorem length_params_le (h : m.accepts arity = true) : m.params.length ≤ arity := by
  have hlength := length_kinds h
  rw [kinds, List.length_append] at hlength
  omega

/-- Binding coerces every argument to its own kind and packs what comes out. -/
theorem bind_eq (h : m.accepts values.length = true) :
    m.bind values =
      match coerceEach (m.kinds values.length) values with
      | .error e => .error e
      | .ok bound => .ok ⟨m.pack bound⟩ := by
  have hfirst := length_params_le h
  have htake : m.params.length = (values.take m.params.length).length := by
    rw [List.length_take]
    omega
  rw [bind, bindParams_eq 0 hfirst, kinds]
  unfold accepts at h
  unfold pack
  cases hrest : m.rest with
  | none =>
    rw [hrest] at h
    have hall : values.length = m.params.length := by simpa using h
    rw [List.append_nil, ← hall, List.take_length]
    cases coerceEach m.params values <;> rfl
  | some kind =>
    have hsplit : coerceEach (m.params ++ List.replicate (values.length - m.params.length) kind) values =
        coerceEach (m.params ++ List.replicate (values.length - m.params.length) kind)
          (values.take m.params.length ++ values.drop m.params.length) := by
      rw [List.take_append_drop]
    dsimp only
    rw [hsplit, coerceEach_append htake]
    cases hbound : coerceEach m.params (values.take m.params.length) with
    | error e => rfl
    | ok bound =>
      have hlength := length_coerceEach htake hbound
      dsimp only
      rw [coerceAll_eq, List.length_drop]
      cases coerceEach (List.replicate (values.length - m.params.length) kind)
          (values.drop m.params.length) with
      | error e => rfl
      | ok others =>
        dsimp only
        rw [← hlength, List.take_left, List.drop_left]

/-! ### What arrives -/

section Arriving

variable {bound : List Value}

theorem getElem?_pack_surplus {kind : ParamKind} (hrest : m.rest = some kind)
    (h : m.params.length ≤ bound.length) :
    (m.pack bound)[m.params.length]? = some (.list (bound.drop m.params.length)) := by
  have htake : (bound.take m.params.length).length = m.params.length := by
    rw [List.length_take]
    omega
  rw [pack, hrest]
  dsimp only
  rw [List.getElem?_append_right (Nat.le_of_eq htake), htake, Nat.sub_self]
  rfl

theorem unpack_pack (h : m.params.length ≤ bound.length) : m.unpack (m.pack bound) = bound := by
  cases hrest : m.rest with
  | none => rw [unpack, pack, hrest]
  | some kind =>
    have htake : (bound.take m.params.length).length = m.params.length := by
      rw [List.length_take]
      omega
    rw [unpack, getElem?_pack_surplus hrest h, hrest, pack, hrest]
    dsimp only
    rw [List.take_left' htake, List.take_append_drop]

theorem length_pack (h : m.accepts bound.length = true) :
    (m.pack bound).length = m.params.length + if m.rest.isSome then 1 else 0 := by
  have hfirst := length_params_le h
  unfold accepts at h
  unfold pack
  cases hrest : m.rest with
  | none =>
    rw [hrest] at h
    simpa using h
  | some kind =>
    rw [List.length_append, List.length_take, Nat.min_eq_left hfirst]
    rfl

theorem getElem?_pack (h : m.params.length ≤ bound.length) {i : Nat} (hi : i < m.params.length) :
    (m.pack bound)[i]? = bound[i]? := by
  unfold pack
  cases m.rest with
  | none => rfl
  | some kind =>
    dsimp only
    rw [List.getElem?_append_left (by rw [List.length_take]; omega), List.getElem?_take_of_lt hi]

end Arriving

/-- What a method has received when all its kinds accept the values. -/
structure Arrives (m : MethodDecl) (values : List Value) (args : Args) : Prop where
  /-- One value for each parameter, and one more for a variadic method. -/
  length : args.length = m.params.length + if m.rest.isSome then 1 else 0
  /-- That one is the list of the surplus arguments. -/
  surplus : ∀ kind, m.rest = some kind → ∃ items, args.list m.params.length = .ok items ∧
    items.length = values.length - m.params.length
  /-- With its items in its place, every value is there once, in order, as its kind receives it. -/
  unpacked : m.unpack args.values = receivedAll (m.kinds values.length) values
  /-- The accessors for the kind of a parameter find what it received. -/
  readable : ∀ (i : Nat) (kind : ParamKind) (v : Value), m.params[i]? = some kind →
    values[i]? = some v → ∀ reading ∈ kind.readings, args.read i reading = .ok (kind.received v)

/-- A value that no kind refuses before it, and its own does, is what binding reports. -/
theorem bind_eq_error {kind : ParamKind} {v : Value} (h : m.accepts values.length = true)
    (hrefused : firstRefused (m.kinds values.length) values = some (kind, v)) :
    m.bind values = .error (kind.mismatch v) := by
  rw [bind_eq h, coerceEach, hrefused]

theorem exists_bind_eq_ok (h : m.accepts values.length = true)
    (haccepted : firstRefused (m.kinds values.length) values = none) :
    ∃ args, m.bind values = .ok args ∧ m.Arrives values args := by
  have hfirst := length_params_le h
  have hkinds := length_kinds h
  obtain ⟨bound, hbound⟩ : ∃ bound, bound = receivedAll (m.kinds values.length) values := ⟨_, rfl⟩
  have hlength : bound.length = values.length := by
    rw [hbound, receivedAll, List.length_zipWith, hkinds, Nat.min_self]
  have hroom : m.params.length ≤ bound.length := by omega
  refine ⟨⟨m.pack bound⟩, by rw [bind_eq h, coerceEach, haccepted, hbound], ?_⟩
  refine ⟨length_pack (by rwa [hlength]), ?_, hbound ▸ unpack_pack hroom, ?_⟩
  · intro kind hrest
    refine ⟨bound.drop m.params.length, ?_, by rw [List.length_drop, hlength]⟩
    rw [Args.list, Args.view, Args.value, getElem?_pack_surplus hrest hroom]
    rfl
  · intro i kind v hkind hv reading hreading
    have hi : i < m.params.length := (List.getElem?_eq_some_iff.mp hkind).1
    have hkind' : (m.kinds values.length)[i]? = some kind := by
      rw [kinds, List.getElem?_append_left hi, hkind]
    have hreceived : (m.pack bound)[i]? = some (kind.received v) := by
      rw [getElem?_pack hroom hi, hbound, receivedAll, List.getElem?_zipWith, hkind', hv]
    have haccepts := firstRefused_eq_none_iff.mp haccepted i kind v hkind' hv
    exact Args.read_eq_ok haccepts hreceived hreading

theorem bind_ne_missing (h : m.accepts values.length = true) (position : Nat) :
    m.bind values ≠ .error (.missingArgument position) := by
  cases hrefused : firstRefused (m.kinds values.length) values with
  | some refused =>
    rw [bind_eq_error h hrefused, ParamKind.mismatch]
    intro heq
    cases heq
  | none =>
    obtain ⟨args, hargs, -⟩ := exists_bind_eq_ok h hrefused
    rw [hargs]
    intro heq
    cases heq

end MethodDecl

/-! ### Calls -/

namespace MethodTable

/-- An adapter that notes each time which method it runs and what that receives. -/
def noting {σ α : Type} (run : Nat → Args → σ → Except HostError α × σ) (index : Nat) (args : Args)
    (s : σ × List (Nat × Args)) : Except HostError α × σ × List (Nat × Args) :=
  ((run index args s.1).1, (run index args s.1).2, s.2 ++ [(index, args)])

variable {σ α : Type} {t : MethodTable} {name : String} {values : List Value}
  {run : Nat → Args → σ → Except HostError α × σ} {s : σ}

/-- Notes change nothing of what a call does. -/
theorem call_noting (t : MethodTable) (name : String) (values : List Value)
    (run : Nat → Args → σ → Except HostError α × σ) (s : σ) (notes : List (Nat × Args)) :
    t.call name values run s =
      ((t.call name values (noting run) (s, notes)).1,
        (t.call name values (noting run) (s, notes)).2.1) := by
  cases hresolve : t.resolve? name values.length with
  | none => rw [call_of_unresolved hresolve, call_of_unresolved hresolve]
  | some found =>
    cases hbind : found.1.bind values with
    | error e => rw [call_of_refused hresolve hbind, call_of_refused hresolve hbind]
    | ok args => rw [call_of_bound hresolve hbind, call_of_bound hresolve hbind]; rfl

/-- What is declared later does not change a call that resolves. -/
theorem call_extend (h : ∃ m ∈ t.methods, m.Fits name values.length) (more : List MethodDecl)
    (run : Nat → Args → σ → Except HostError α × σ) (s : σ) :
    (t.extend more).call name values run s = t.call name values run s := by
  obtain ⟨m, index, hresolve⟩ := exists_resolve?_iff.mpr h
  have hextended := resolve?_extend hresolve more
  cases hbind : m.bind values with
  | error e => rw [call_of_refused hresolve hbind, call_of_refused hextended hbind]
  | ok args => rw [call_of_bound hresolve hbind, call_of_bound hextended hbind]; rfl

/-- Only a call that means no declaration fails for that reason without running anything. -/
theorem call_noting_eq_notFound_iff :
    t.call name values (noting run) (s, []) =
        (.error (.methodNotFound t.name name values.length), s, []) ↔
      ∀ m ∈ t.methods, ¬ m.Fits name values.length := by
  cases hresolve : t.resolve? name values.length with
  | none =>
    refine iff_of_true (call_of_unresolved hresolve) fun m hm hfits => ?_
    have hrefused := resolve?_eq_none_iff.mp hresolve m hm hfits.1
    rw [hfits.2] at hrefused
    cases hrefused
  | some found =>
    have hfits := exists_resolve?_iff.mp ⟨found.1, found.2, hresolve⟩
    refine iff_of_false (fun hcalled => ?_) fun hnone => ?_
    · cases hbind : found.1.bind values with
      | error e =>
        rw [call_of_refused hresolve hbind] at hcalled
        cases hcalled
      | ok args =>
        -- The note of the method that ran gives it away.
        rw [call_of_bound hresolve hbind] at hcalled
        exact absurd (congrArg (fun called => called.2.2) hcalled) (by simp [noting])
    · obtain ⟨m, hm, hmfits⟩ := hfits
      exact hnone m hm hmfits

/-- A call runs at most one method, the first declared one that fits, and only if none of the
    arguments is refused; that method has then received every argument once, in order, as its kind
    asks. -/
theorem call_binds (t : MethodTable) (name : String) (values : List Value)
    (run : Nat → Args → σ → Except HostError α × σ) (s : σ) :
    let called := t.call name values (noting run) (s, [])
    (t.call name values run s = (called.1, called.2.1)) ∧
      (called = (.error (.methodNotFound t.name name values.length), s, []) ↔
        ∀ m ∈ t.methods, ¬ m.Fits name values.length) ∧
      (∀ (m : MethodDecl) (index : Nat), t.methods[index]? = some m → m.Fits name values.length →
        (∀ j < index, ∀ m', t.methods[j]? = some m' → ¬ m'.Fits name values.length) →
          (m.kinds values.length).length = values.length ∧
          (∀ (i : Nat) (kind : ParamKind) (v : Value), (m.kinds values.length)[i]? = some kind →
            values[i]? = some v → kind.accepts v = false →
            (∀ j : Nat, j < i → ∀ (kind' : ParamKind) (v' : Value),
              (m.kinds values.length)[j]? = some kind' → values[j]? = some v' →
              kind'.accepts v' = true) →
            called = (.error (.marshal (.kindMismatch kind.name v.typeName)), s, [])) ∧
          ((∀ (i : Nat) (kind : ParamKind) (v : Value), (m.kinds values.length)[i]? = some kind →
            values[i]? = some v → kind.accepts v = true) →
            ∃ args, m.Arrives values args ∧
              called = ((run index args s).1.mapError (t.failure name), (run index args s).2,
                [(index, args)]))) ∧
      (∀ m ∈ t.methods, m.Fits name values.length → ∀ position,
        m.bind values ≠ .error (.missingArgument position)) ∧
      ((∃ m ∈ t.methods, m.Fits name values.length) → ∀ more : List MethodDecl,
        (t.extend more).call name values run s = t.call name values run s) := by
  intro called
  refine ⟨call_noting t name values run s [], call_noting_eq_notFound_iff, ?_,
    fun m _ hfits => MethodDecl.bind_ne_missing hfits.2, fun h more => call_extend h more run s⟩
  intro m index hm hfits hearlier
  have hresolve := resolve?_eq_some_iff.mpr ⟨hm, hfits, hearlier⟩
  refine ⟨MethodDecl.length_kinds hfits.2, ?_, ?_⟩
  · intro i kind v hkind hv hrefuses hbefore
    have hrefused := firstRefused_eq_some_iff.mpr ⟨i, hkind, hv, hrefuses, hbefore⟩
    exact call_of_refused hresolve (MethodDecl.bind_eq_error hfits.2 hrefused)
  · intro haccepted
    obtain ⟨args, hbind, harrives⟩ :=
      MethodDecl.exists_bind_eq_ok hfits.2 (firstRefused_eq_none_iff.mpr haccepted)
    exact ⟨args, harrives, call_of_bound hresolve hbind⟩

end MethodTable
end ScriptBridge
