/-
  ScriptBridge/Proofs/Json/ValueForm.lean
  =======================================
  **Values through their document form and back.**

  A document does not say what kind of value it was written for, so octets come
  back as the list of their numbers and a handle as its number (`Value.plain`).
  Everything else comes back as it was, with one proviso for each kind: a word
  in its literal stays in range, a map has its keys in order, a document is not
  nested too deeply.  Doubles are left out here.  In the other direction no
  document at all reads as octets or as a handle (`isDocumentary_of_toValue?`).

  What is asked of a value is asked of all its parts, the value itself included
  (`Value.parts`), so that one inclusion serves every part of a list or a map.
-/
import ScriptBridge.Json.Value
import ScriptBridge.Proofs.Data.Sorted
import ScriptBridge.Proofs.Json.Reading

namespace ScriptBridge

/-! ### The literal of an integer -/

namespace Numeral

theorem isDigit_toDigits (n : Nat) : ∀ c ∈ Nat.toDigits 10 n, Text.isDigit c = true := by
  intro c hc
  have hdigit := Nat.isDigit_of_mem_toDigits (by decide) (by decide) hc
  simp only [Char.isDigit, ge_iff_le, Bool.and_eq_true, decide_eq_true_eq] at hdigit
  simp only [Text.isDigit, Bool.and_eq_true, decide_eq_true_eq]
  exact hdigit

/-- No number but zero starts with a zero. -/
theorem head?_toDigits_ne {n : Nat} (hn : 0 < n) : (Nat.toDigits 10 n).head? ≠ some '0' := by
  induction n using Nat.strongRecOn with
  | _ n ih =>
    by_cases hten : n < 10
    · have hall : ∀ d < 10, 0 < d → some (Nat.digitChar d) ≠ some '0' := by decide
      rw [Nat.toDigits_of_lt_base hten]
      exact hall n hten hn
    · have hle : 10 ≤ n := Nat.not_lt.mp hten
      obtain ⟨d, ds, hd⟩ := List.exists_cons_of_ne_nil (@Nat.toDigits_ne_nil (n / 10) 10)
      have hdiv := ih (n / 10) (Nat.div_lt_self hn (by decide)) (Nat.div_pos hle (by decide))
      rw [hd] at hdiv
      rw [Nat.toDigits_of_base_le (by decide) hle, hd]
      exact hdiv

theorem wellFormed_ofInt (n : Int) : (ofInt n).WellFormed where
  whole := Nat.toDigits_ne_nil
  digits := isDigit_toDigits n.natAbs
  leading := by
    intro hzero
    rcases Nat.eq_zero_or_pos n.natAbs with hn | hn
    · simp only [ofInt, hn]
      rfl
    · exact absurd hzero (head?_toDigits_ne hn)
  fraction := by
    intro c hc
    cases hc
  exponent := by
    intro sign digits he
    cases he

/-- The literal of an integer stands for the integer. -/
theorem integer?_ofInt (n : Int) : (ofInt n).integer? = some n := by
  simp only [integer?, ofInt, List.isEmpty_nil, Option.isNone_none, and_self, if_true,
    Nat.ofDigitChars_ten_toDigits, decide_eq_true_eq]
  split
  · next hneg =>
    have hsize : n.natAbs ≠ 0 := by omega
    rw [if_neg hsize, Int.ofNat_natAbs_of_nonpos (by omega), Int.neg_neg]
  · next hpos => rw [Int.natAbs_of_nonneg (by omega)]

theorem toWord?_ofInt {n : Int} {a : Int64} (ha : a.toInt = n) : (ofInt n).toWord? = some a := by
  rw [toWord?, integer?_ofInt, Option.bind_some]
  exact Word.ofInt?_eq_some_iff.mpr ha

theorem toValue?_ofInt {n : Int} {a : Int64} (ha : a.toInt = n) :
    (ofInt n).toValue? = some (.int a) := by
  rw [toValue?, toWord?_ofInt ha]

end Numeral

namespace Value

/-! ### The parts of a value, its nesting, and what a document keeps of it -/

mutual

/-- The value and every value in it. -/
def parts : Value → List Value
  | .list items => .list items :: partsItems items
  | .map entries => .map entries :: partsEntries entries
  | v => [v]

def partsItems : List Value → List Value
  | [] => []
  | v :: rest => parts v ++ partsItems rest

def partsEntries : List (String × Value) → List Value
  | [] => []
  | (_, v) :: rest => parts v ++ partsEntries rest

end

mutual

/-- The largest number of lists, maps and octets that enclose one another, the value itself
    included. -/
def nesting : Value → Nat
  | .list items => nestingItems items + 1
  | .map entries => nestingEntries entries + 1
  | .bytes _ => 1
  | _ => 0

def nestingItems : List Value → Nat
  | [] => 0
  | v :: rest => max (nesting v) (nestingItems rest)

def nestingEntries : List (String × Value) → Nat
  | [] => 0
  | (_, v) :: rest => max (nesting v) (nestingEntries rest)

end

mutual

/-- The value with octets as the list of their numbers and handles as their numbers. -/
def plain : Value → Value
  | .list items => .list (plainItems items)
  | .map entries => .map (plainEntries entries)
  | .bytes octets => .list (octets.map fun b => .int (Int64.ofInt b.toNat))
  | .object h => .int (Int64.ofInt h.number)
  | v => v

def plainItems : List Value → List Value
  | [] => []
  | v :: rest => plain v :: plainItems rest

def plainEntries : List (String × Value) → List (String × Value)
  | [] => []
  | (k, v) :: rest => (k, plain v) :: plainEntries rest

end

/-- The values hold neither octets nor handles. -/
structure Documentary (values : List Value) : Prop where
  bytes : ∀ octets, .bytes octets ∉ values
  object : ∀ h, .object h ∉ values

/-- No number among the values is a double or a handle out of range, and every map is in order. -/
structure Exact (values : List Value) : Prop where
  float : ∀ d, .float d ∉ values
  sorted : ∀ entries, .map entries ∈ values → Assoc.Sorted entries
  handle : ∀ h, .object h ∈ values → (h.number : Int) ≤ Word.greatest

section Parts

variable {values values' : List Value}

theorem Documentary.mono (h : Documentary values) (hsub : values' ⊆ values) : Documentary values' where
  bytes octets hmem := h.bytes octets (hsub hmem)
  object o hmem := h.object o (hsub hmem)

theorem documentary_nil : Documentary [] :=
  ⟨fun _ hmem => List.not_mem_nil hmem, fun _ hmem => List.not_mem_nil hmem⟩

theorem Documentary.cons {v : Value} (hbytes : ∀ octets, v ≠ .bytes octets)
    (hobject : ∀ h, v ≠ .object h) (h : Documentary values) : Documentary (v :: values) := by
  constructor
  · intro octets hmem
    rcases List.mem_cons.mp hmem with heq | hmem
    · exact hbytes octets heq.symm
    · exact h.bytes octets hmem
  · intro o hmem
    rcases List.mem_cons.mp hmem with heq | hmem
    · exact hobject o heq.symm
    · exact h.object o hmem

theorem Documentary.append (h : Documentary values) (h' : Documentary values') :
    Documentary (values ++ values') where
  bytes octets hmem := (List.mem_append.mp hmem).elim (h.bytes octets) (h'.bytes octets)
  object o hmem := (List.mem_append.mp hmem).elim (h.object o) (h'.object o)

theorem Exact.mono (h : Exact values) (hsub : values' ⊆ values) : Exact values' where
  float d hmem := h.float d (hsub hmem)
  sorted entries hmem := h.sorted entries (hsub hmem)
  handle o hmem := h.handle o (hsub hmem)

end Parts

theorem self_mem_parts (v : Value) : v ∈ v.parts := by
  cases v <;> exact List.mem_cons_self

mutual

/-- A value without octets and handles is its own plain form. -/
theorem plain_eq_self : ∀ v : Value, Documentary v.parts → v.plain = v
  | .nil, _ | .bool _, _ | .int _, _ | .float _, _ | .string _, _ => rfl
  | .bytes octets, h => absurd (self_mem_parts _) (h.bytes octets)
  | .object o, h => absurd (self_mem_parts _) (h.object o)
  | .list items, h => by
    rw [plain, plainItems_eq_self items (h.mono (List.subset_cons_self _ _))]
  | .map entries, h => by
    rw [plain, plainEntries_eq_self entries (h.mono (List.subset_cons_self _ _))]

theorem plainItems_eq_self : ∀ items : List Value, Documentary (partsItems items) →
    plainItems items = items
  | [], _ => rfl
  | v :: rest, h => by
    rw [plainItems, plain_eq_self v (h.mono (List.subset_append_left _ _)),
      plainItems_eq_self rest (h.mono (List.subset_append_right _ _))]

theorem plainEntries_eq_self : ∀ entries : List (String × Value), Documentary (partsEntries entries) →
    plainEntries entries = entries
  | [], _ => rfl
  | (k, v) :: rest, h => by
    rw [plainEntries, plain_eq_self v (h.mono (List.subset_append_left _ _)),
      plainEntries_eq_self rest (h.mono (List.subset_append_right _ _))]

end

/-! ### The document of a value -/

theorem nestingItems_numbers (octets : List UInt8) :
    Json.nestingItems (octets.map fun b => .number (Numeral.ofInt b.toNat)) = 0 := by
  induction octets with
  | nil => rfl
  | cons b octets ih =>
    rw [List.map_cons, Json.nestingItems, ih]
    rfl

mutual

theorem nesting_toJson : ∀ v : Value, v.toJson.nesting = v.nesting
  | .nil | .bool _ | .int _ | .string _ | .object _ => rfl
  | .float d => by
    rw [toJson]
    split <;> rfl
  | .bytes octets => by rw [toJson, Json.nesting, nestingItems_numbers, nesting]
  | .list items => by rw [toJson, Json.nesting, nestingItems_toJson items, nesting]
  | .map entries => by rw [toJson, Json.nesting, nestingMembers_toJson entries, nesting]

theorem nestingItems_toJson : ∀ items : List Value,
    Json.nestingItems (toJsonItems items) = nestingItems items
  | [] => rfl
  | v :: rest => by
    rw [toJsonItems, Json.nestingItems, nesting_toJson v, nestingItems_toJson rest, nestingItems]

theorem nestingMembers_toJson : ∀ entries : List (String × Value),
    Json.nestingMembers (toJsonEntries entries) = nestingEntries entries
  | [] => rfl
  | (k, v) :: rest => by
    rw [toJsonEntries, Json.nestingMembers, nesting_toJson v, nestingMembers_toJson rest,
      nestingEntries]

end

section Numerals

variable {Q : Numeral → Prop}

theorem forall_numerals_numbers (hint : ∀ m, Q (Numeral.ofInt m)) (octets : List UInt8) :
    ∀ n ∈ Json.numeralsItems (octets.map fun b => .number (Numeral.ofInt b.toNat)), Q n := by
  induction octets with
  | nil => simp [Json.numeralsItems]
  | cons b octets ih =>
    intro n hn
    rcases List.mem_append.mp hn with hn | hn
    · rw [List.mem_singleton.mp hn]
      exact hint _
    · exact ih n hn

mutual

/-- Every number literal is that of an integer or of a double in the value. -/
theorem forall_numerals_toJson (hint : ∀ m, Q (Numeral.ofInt m)) : ∀ v : Value,
    (∀ d, .float d ∈ v.parts → Q (Numeral.ofDouble d)) → ∀ n ∈ v.toJson.numerals, Q n
  | .nil, _, _, hn | .bool _, _, _, hn | .string _, _, _, hn => by cases hn
  | .int _, _, _, hn | .object _, _, _, hn => List.mem_singleton.mp hn ▸ hint _
  | .float d, h, n, hn => by
    rw [toJson] at hn
    split at hn
    · rw [List.mem_singleton.mp hn]
      exact h d (self_mem_parts _)
    · cases hn
  | .bytes octets, _, n, hn => forall_numerals_numbers hint octets n hn
  | .list items, h, n, hn =>
    forall_numeralsItems_toJson hint items (fun d hd => h d (List.mem_cons_of_mem _ hd)) n hn
  | .map entries, h, n, hn =>
    forall_numeralsMembers_toJson hint entries (fun d hd => h d (List.mem_cons_of_mem _ hd)) n hn

theorem forall_numeralsItems_toJson (hint : ∀ m, Q (Numeral.ofInt m)) : ∀ items : List Value,
    (∀ d, .float d ∈ partsItems items → Q (Numeral.ofDouble d)) →
      ∀ n ∈ Json.numeralsItems (toJsonItems items), Q n
  | [], _, _, hn => by cases hn
  | v :: rest, h, n, hn => by
    rcases List.mem_append.mp hn with hn | hn
    · exact forall_numerals_toJson hint v (fun d hd => h d (List.mem_append_left _ hd)) n hn
    · exact forall_numeralsItems_toJson hint rest (fun d hd => h d (List.mem_append_right _ hd)) n hn

theorem forall_numeralsMembers_toJson (hint : ∀ m, Q (Numeral.ofInt m)) :
    ∀ entries : List (String × Value),
      (∀ d, .float d ∈ partsEntries entries → Q (Numeral.ofDouble d)) →
        ∀ n ∈ Json.numeralsMembers (toJsonEntries entries), Q n
  | [], _, _, hn => by cases hn
  | (_, v) :: rest, h, n, hn => by
    rcases List.mem_append.mp hn with hn | hn
    · exact forall_numerals_toJson hint v (fun d hd => h d (List.mem_append_left _ hd)) n hn
    · exact forall_numeralsMembers_toJson hint rest (fun d hd => h d (List.mem_append_right _ hd)) n hn

end

end Numerals

theorem wellFormed_toJson {v : Value} (h : ∀ d, .float d ∉ v.parts) : v.toJson.WellFormed :=
  forall_numerals_toJson Numeral.wellFormed_ofInt v fun d hd => absurd hd (h d)

/-! ### Reading it back -/

theorem toInt_octet (b : UInt8) : (Int64.ofInt b.toNat).toInt = b.toNat := by
  have hb := b.toNat_lt
  exact Word.toInt_ofInt (by unfold Word.least; omega) (by unfold Word.greatest; omega)

theorem toValueItems?_numbers (octets : List UInt8) :
    Json.toValueItems? (octets.map fun b => .number (Numeral.ofInt b.toNat)) =
      some (octets.map fun b => .int (Int64.ofInt b.toNat)) := by
  induction octets with
  | nil => rfl
  | cons b octets ih =>
    simp only [List.map_cons, Json.toValueItems?, Json.toValue?, ih,
      Numeral.toValue?_ofInt (toInt_octet b)]

theorem sorted_plainEntries {entries : List (String × Value)} (h : Assoc.Sorted entries) :
    Assoc.Sorted (plainEntries entries) := by
  have hmap : ∀ l, plainEntries l = l.map fun e => (e.1, plain e.2) := by
    intro l
    induction l with
    | nil => rfl
    | cons e l ih => rw [plainEntries, ih, List.map_cons]
  rw [hmap]
  exact h.map fun e => rfl

mutual

theorem toValue?_toJson : ∀ v : Value, Exact v.parts → v.toJson.toValue? = some v.plain
  | .nil, _ | .bool _, _ | .string _, _ => rfl
  | .int n, _ => Numeral.toValue?_ofInt rfl
  | .float d, h => absurd (self_mem_parts _) (h.float d)
  | .bytes octets, _ => by
    rw [toJson, Json.toValue?, toValueItems?_numbers, plain, Option.map_some]
  | .object o, h => by
    have hrange := h.handle o (self_mem_parts _)
    exact Numeral.toValue?_ofInt (Word.toInt_ofInt (by unfold Word.least; omega) hrange)
  | .list items, h => by
    have hitems := toValueItems?_toJson items (h.mono (List.subset_cons_self _ _))
    rw [toJson, Json.toValue?, hitems, plain, Option.map_some]
  | .map entries, h => by
    have hentries := toValueMembers?_toJson entries (h.mono (List.subset_cons_self _ _))
    have hsorted := sorted_plainEntries (h.sorted entries (self_mem_parts _))
    rw [toJson, Json.toValue?, hentries, plain, Option.map_some, hsorted.ofList_eq_self]

theorem toValueItems?_toJson : ∀ items : List Value, Exact (partsItems items) →
    Json.toValueItems? (toJsonItems items) = some (plainItems items)
  | [], _ => rfl
  | v :: rest, h => by
    have hv := toValue?_toJson v (h.mono (List.subset_append_left _ _))
    have hrest := toValueItems?_toJson rest (h.mono (List.subset_append_right _ _))
    simp only [toJsonItems, Json.toValueItems?, hv, hrest, plainItems]

theorem toValueMembers?_toJson : ∀ entries : List (String × Value), Exact (partsEntries entries) →
    Json.toValueMembers? (toJsonEntries entries) = some (plainEntries entries)
  | [], _ => rfl
  | (k, v) :: rest, h => by
    have hv := toValue?_toJson v (h.mono (List.subset_append_left _ _))
    have hrest := toValueMembers?_toJson rest (h.mono (List.subset_append_right _ _))
    simp only [toJsonEntries, Json.toValueMembers?, hv, hrest, plainEntries]

end

/-- The text of a value reads back as its plain form, unless it is nested too deeply. -/
theorem read_text_toJson {v : Value} (h : Exact v.parts) :
    (Json.read v.toJson.text).bind Json.value? =
      if v.nesting ≤ Json.nestingLimit then some v.plain else none := by
  rw [Json.read_text (wellFormed_toJson h.float), Option.bind_some, Json.value?, nesting_toJson,
    toValue?_toJson v h]

/-! ### What no document reads as -/

theorem documentary_of_mem_partsEntries {entries : List (String × Value)}
    (h : ∀ e ∈ entries, Documentary e.2.parts) : Documentary (partsEntries entries) := by
  induction entries with
  | nil => exact documentary_nil
  | cons e entries ih =>
    exact (h e List.mem_cons_self).append (ih fun e' he' => h e' (List.mem_cons_of_mem _ he'))

end Value

theorem Numeral.documentary_of_toValue? {n : Numeral} {v : Value} (h : n.toValue? = some v) :
    Value.Documentary v.parts := by
  have hkind : (∃ a, v = .int a) ∨ ∃ d, v = .float d := by
    unfold toValue? at h
    split at h
    · next a _ =>
      cases h
      exact Or.inl ⟨a, rfl⟩
    · obtain ⟨d, -, rfl⟩ := Option.map_eq_some_iff.mp h
      exact Or.inr ⟨d, rfl⟩
  rcases hkind with ⟨a, rfl⟩ | ⟨d, rfl⟩
  · exact Value.documentary_nil.cons nofun nofun
  · exact Value.documentary_nil.cons nofun nofun

namespace Json

mutual

/-- A document reads as a value without octets and handles. -/
theorem documentary_of_toValue? : ∀ (j : Json) {v : Value}, j.toValue? = some v →
    Value.Documentary v.parts
  | .null, _, h | .bool _, _, h | .string _, _, h => by
    cases h
    exact Value.documentary_nil.cons nofun nofun
  | .illFormed, _, h => by cases h
  | .number n, _, h => Numeral.documentary_of_toValue? h
  | .array items, _, h => by
    obtain ⟨vs, hvs, rfl⟩ := Option.map_eq_some_iff.mp h
    exact (documentary_of_toValueItems? items hvs).cons nofun nofun
  | .object members, _, h => by
    obtain ⟨entries, hentries, rfl⟩ := Option.map_eq_some_iff.mp h
    have hmembers := documentary_of_toValueMembers? members hentries
    have hparts := Value.documentary_of_mem_partsEntries fun e he =>
      hmembers e (Assoc.mem_of_mem_ofList he)
    exact hparts.cons nofun nofun

theorem documentary_of_toValueItems? : ∀ (items : List Json) {vs : List Value},
    toValueItems? items = some vs → Value.Documentary (Value.partsItems vs)
  | [], _, h => by
    cases h
    exact Value.documentary_nil
  | j :: rest, _, h => by
    unfold toValueItems? at h
    split at h
    · next v vs hv hvs =>
      cases h
      exact (documentary_of_toValue? j hv).append (documentary_of_toValueItems? rest hvs)
    · cases h

theorem documentary_of_toValueMembers? : ∀ (members : List (String × Json))
    {entries : List (String × Value)}, toValueMembers? members = some entries →
      ∀ e ∈ entries, Value.Documentary e.2.parts
  | [], _, h => by
    cases h
    intro e he
    cases he
  | (k, j) :: rest, _, h => by
    unfold toValueMembers? at h
    split at h
    · next v entries hv hentries =>
      cases h
      intro e he
      rcases List.mem_cons.mp he with rfl | he
      · exact documentary_of_toValue? j hv
      · exact documentary_of_toValueMembers? rest hentries e he
    · cases h

end

end Json
end ScriptBridge
