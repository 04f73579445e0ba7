/-
  ScriptBridge/Proofs/Script/Marshal.lean
  =======================================
  **Crossing between the bridge and a script is an exact partial bijection.**

  A value has one script value, its transcript, kind by kind.  The other way many
  script values stand for one value: a character stands for a text, and a shared
  value for what it wraps.  The transcripts are the normal forms, in which there
  are neither.

  Both directions carry the number of lists and maps around a part, and both
  refuse a part at the same number.  The lemmas therefore speak of a part that
  lies inside `n` lists and maps: it crosses if `n` and its own depth are within
  the limit together.  Elements lie one deeper than their list, so what is said
  of elements is said of `n + 1`.
-/
import ScriptBridge.Script.Marshal

namespace ScriptBridge

/-! ### Transcripts and normal forms -/

namespace Value

mutual

/-- The script value that stands for a value, whatever its depth. -/
def transcript : Value → Data
  | .nil => .unit
  | .bool b => .bool b
  | .int n => .int n
  | .float d => .float d
  | .string s => .string s
  | .bytes octets => .blob octets
  | .object h => .handle h
  | .list items => .array (transcriptItems items)
  | .map entries => .map (transcriptEntries entries)

def transcriptItems : List Value → List Data
  | [] => []
  | v :: rest => transcript v :: transcriptItems rest

def transcriptEntries : List (String × Value) → List (String × Data)
  | [] => []
  | (k, v) :: rest => (k, transcript v) :: transcriptEntries rest

end

end Value

namespace Data

mutual

/-- The script value with texts for its characters and without wrappers. -/
def normal : Data → Data
  | .char c => .string (String.singleton c)
  | .shared inner => normal inner
  | .array items => .array (normalItems items)
  | .map entries => .map (normalEntries entries)
  | d => d

def normalItems : List Data → List Data
  | [] => []
  | d :: rest => normal d :: normalItems rest

def normalEntries : List (String × Data) → List (String × Data)
  | [] => []
  | (k, d) :: rest => (k, normal d) :: normalEntries rest

end

end Data

/-! ### Into a script -/

namespace Value

theorem marshalAt_of_lt {n : Nat} (hn : nestingLimit < n) (v : Value) :
    v.marshalAt n = .error (.tooDeep nestingLimit) := by
  unfold marshalAt
  exact if_pos hn

mutual

/-- A part within the limit becomes its transcript. -/
theorem marshalAt_of_le (n : Nat) (v : Value) (h : n + v.depth ≤ nestingLimit) :
    v.marshalAt n = .ok v.transcript := by
  have hn : ¬ nestingLimit < n := by omega
  unfold marshalAt
  rw [if_neg hn]
  cases v with
  | list items =>
    rw [depth] at h
    simp only [marshalItems_of_le n items (by omega) h, transcript]
    rfl
  | map entries =>
    rw [depth] at h
    simp only [marshalEntries_of_le n entries (by omega) h, transcript]
    rfl
  | _ => rfl

theorem marshalItems_of_le (n : Nat) (items : List Value) (hn : n ≤ nestingLimit)
    (h : n + depthItems items ≤ nestingLimit) :
    marshalItems (n + 1) items = .ok (transcriptItems items) := by
  match items with
  | [] => rfl
  | v :: rest =>
    rw [depthItems] at h
    have hv := marshalAt_of_le (n + 1) v (by omega)
    have hrest := marshalItems_of_le n rest hn (by omega)
    simp only [marshalItems, hv, hrest, transcriptItems]

theorem marshalEntries_of_le (n : Nat) (entries : List (String × Value)) (hn : n ≤ nestingLimit)
    (h : n + depthEntries entries ≤ nestingLimit) :
    marshalEntries (n + 1) entries = .ok (transcriptEntries entries) := by
  match entries with
  | [] => rfl
  | (k, v) :: rest =>
    rw [depthEntries] at h
    have hv := marshalAt_of_le (n + 1) v (by omega)
    have hrest := marshalEntries_of_le n rest hn (by omega)
    simp only [marshalEntries, hv, hrest, transcriptEntries]

end

mutual

/-- A part beyond the limit is refused. -/
theorem marshalAt_of_gt (n : Nat) (v : Value) (h : nestingLimit < n + v.depth) :
    v.marshalAt n = .error (.tooDeep nestingLimit) := by
  by_cases hn : nestingLimit < n
  · exact marshalAt_of_lt hn v
  unfold marshalAt
  rw [if_neg hn]
  cases v with
  | list items =>
    rw [depth] at h
    simp only [marshalItems_of_gt n items (by omega) h]
    rfl
  | map entries =>
    rw [depth] at h
    simp only [marshalEntries_of_gt n entries (by omega) h]
    rfl
  | _ => exact absurd h hn

theorem marshalItems_of_gt (n : Nat) (items : List Value) (hn : n ≤ nestingLimit)
    (h : nestingLimit < n + depthItems items) :
    marshalItems (n + 1) items = .error (.tooDeep nestingLimit) := by
  match items with
  | [] => exact absurd h (Nat.not_lt.mpr hn)
  | v :: rest =>
    rw [depthItems] at h
    by_cases hv : nestingLimit < n + 1 + v.depth
    · simp only [marshalItems, marshalAt_of_gt (n + 1) v hv]
    · have hrest := marshalItems_of_gt n rest hn (by omega)
      simp only [marshalItems, marshalAt_of_le (n + 1) v (by omega), hrest]

theorem marshalEntries_of_gt (n : Nat) (entries : List (String × Value)) (hn : n ≤ nestingLimit)
    (h : nestingLimit < n + depthEntries entries) :
    marshalEntries (n + 1) entries = .error (.tooDeep nestingLimit) := by
  match entries with
  | [] => exact absurd h (Nat.not_lt.mpr hn)
  | (k, v) :: rest =>
    rw [depthEntries] at h
    by_cases hv : nestingLimit < n + 1 + v.depth
    · simp only [marshalEntries, marshalAt_of_gt (n + 1) v hv]
    · have hrest := marshalEntries_of_gt n rest hn (by omega)
      simp only [marshalEntries, marshalAt_of_le (n + 1) v (by omega), hrest]

end

end Value

/-! ### Out of a script -/

namespace Data

mutual

/-- The transcript of a part within the limit becomes the part again. -/
theorem unmarshalAt_transcript (n : Nat) (v : Value) (h : n + v.depth ≤ nestingLimit) :
    v.transcript.unmarshalAt n = .ok v := by
  have hn : ¬ nestingLimit < n := by omega
  cases v with
  | list items =>
    rw [Value.depth] at h
    simp only [Value.transcript, unmarshalAt, if_neg hn,
      unmarshalItems_transcript n items (by omega) h]
    rfl
  | map entries =>
    rw [Value.depth] at h
    simp only [Value.transcript, unmarshalAt, if_neg hn,
      unmarshalEntries_transcript n entries (by omega) h]
    rfl
  | _ => simp only [Value.transcript, unmarshalAt, if_neg hn]

theorem unmarshalItems_transcript (n : Nat) (items : List Value) (hn : n ≤ nestingLimit)
    (h : n + Value.depthItems items ≤ nestingLimit) :
    unmarshalItems (n + 1) (Value.transcriptItems items) = .ok items := by
  match items with
  | [] => rfl
  | v :: rest =>
    rw [Value.depthItems] at h
    have hv := unmarshalAt_transcript (n + 1) v (by omega)
    have hrest := unmarshalItems_transcript n rest hn (by omega)
    simp only [Value.transcriptItems, unmarshalItems, hv, hrest]

theorem unmarshalEntries_transcript (n : Nat) (entries : List (String × Value))
    (hn : n ≤ nestingLimit) (h : n + Value.depthEntries entries ≤ nestingLimit) :
    unmarshalEntries (n + 1) (Value.transcriptEntries entries) = .ok entries := by
  match entries with
  | [] => rfl
  | (k, v) :: rest =>
    rw [Value.depthEntries] at h
    have hv := unmarshalAt_transcript (n + 1) v (by omega)
    have hrest := unmarshalEntries_transcript n rest hn (by omega)
    simp only [Value.transcriptEntries, unmarshalEntries, hv, hrest]

end

mutual

/-- A plain part within the limit has a value. -/
theorem exists_unmarshalAt (n : Nat) (d : Data) (h : n + d.depth ≤ nestingLimit)
    (hplain : d.isPlain = true) : ∃ v, d.unmarshalAt n = .ok v := by
  have hn : ¬ nestingLimit < n := by omega
  unfold unmarshalAt
  rw [if_neg hn]
  cases d with
  | array items =>
    rw [depth] at h
    obtain ⟨vs, hvs⟩ := exists_unmarshalItems n items (by omega) h hplain
    exact ⟨.list vs, by simp only [hvs]; rfl⟩
  | map entries =>
    rw [depth] at h
    obtain ⟨vs, hvs⟩ := exists_unmarshalEntries n entries (by omega) h hplain
    exact ⟨.map vs, by simp only [hvs]; rfl⟩
  | shared inner =>
    rw [depth] at h
    exact exists_unmarshalAt n inner h hplain
  | foreign f => cases hplain
  | _ => exact ⟨_, rfl⟩

theorem exists_unmarshalItems (n : Nat) (items : List Data) (hn : n ≤ nestingLimit)
    (h : n + depthItems items ≤ nestingLimit) (hplain : isPlainItems items = true) :
    ∃ vs, unmarshalItems (n + 1) items = .ok vs := by
  match items with
  | [] => exact ⟨[], rfl⟩
  | d :: rest =>
    rw [depthItems] at h
    obtain ⟨hd, hrest⟩ := Bool.and_eq_true_iff.mp hplain
    obtain ⟨v, hv⟩ := exists_unmarshalAt (n + 1) d (by omega) hd
    obtain ⟨vs, hvs⟩ := exists_unmarshalItems n rest hn (by omega) hrest
    exact ⟨v :: vs, by simp only [unmarshalItems, hv, hvs]⟩

theorem exists_unmarshalEntries (n : Nat) (entries : List (String × Data)) (hn : n ≤ nestingLimit)
    (h : n + depthEntries entries ≤ nestingLimit) (hplain : isPlainEntries entries = true) :
    ∃ vs, unmarshalEntries (n + 1) entries = .ok vs := by
  match entries with
  | [] => exact ⟨[], rfl⟩
  | (k, d) :: rest =>
    rw [depthEntries] at h
    obtain ⟨hd, hrest⟩ := Bool.and_eq_true_iff.mp hplain
    obtain ⟨v, hv⟩ := exists_unmarshalAt (n + 1) d (by omega) hd
    obtain ⟨vs, hvs⟩ := exists_unmarshalEntries n rest hn (by omega) hrest
    exact ⟨(k, v) :: vs, by simp only [unmarshalEntries, hv, hvs]⟩

end

/-- What is known of a part that lies inside `n` lists and maps and has a value. -/
structure Crossed (n : Nat) (d : Data) (v : Value) : Prop where
  within : n + d.depth ≤ nestingLimit
  plain : d.isPlain = true
  transcript : v.transcript = d.normal
  depth : v.depth = d.depth

theorem of_map_eq_ok {ε α β : Type} {x : Except ε α} {f : α → β} {b : β} (h : x.map f = .ok b) :
    ∃ a, x = .ok a ∧ f a = b := by
  cases x with
  | error e => cases h
  | ok a => exact ⟨a, rfl, Except.ok.inj h⟩

mutual

/-- A part only crosses within the limit, and its value has the normal form for a transcript. -/
theorem crossed_of_unmarshalAt (n : Nat) (d : Data) (v : Value) (h : d.unmarshalAt n = .ok v) :
    Crossed n d v := by
  unfold unmarshalAt at h
  split at h
  · cases h
  · next hn =>
    have hn' : n ≤ nestingLimit := Nat.not_lt.mp hn
    cases d with
    | array items =>
      obtain ⟨vs, hvs, rfl⟩ := of_map_eq_ok h
      obtain ⟨hwithin, hplain, htranscript, hdepth⟩ := crossed_of_unmarshalItems n items vs hn' hvs
      exact ⟨hwithin, hplain, congrArg Data.array htranscript, hdepth⟩
    | map entries =>
      obtain ⟨vs, hvs, rfl⟩ := of_map_eq_ok h
      obtain ⟨hwithin, hplain, htranscript, hdepth⟩ :=
        crossed_of_unmarshalEntries n entries vs hn' hvs
      exact ⟨hwithin, hplain, congrArg Data.map htranscript, hdepth⟩
    | shared inner =>
      have hinner := crossed_of_unmarshalAt n inner v h
      exact ⟨hinner.within, hinner.plain, hinner.transcript, hinner.depth⟩
    | foreign f => cases h
    | _ =>
      cases h
      exact ⟨hn', rfl, rfl, rfl⟩

theorem crossed_of_unmarshalItems (n : Nat) (items : List Data) (vs : List Value)
    (hn : n ≤ nestingLimit) (h : unmarshalItems (n + 1) items = .ok vs) :
    n + depthItems items ≤ nestingLimit ∧ isPlainItems items = true ∧
      Value.transcriptItems vs = normalItems items ∧ Value.depthItems vs = depthItems items := by
  match items with
  | [] =>
    cases h
    exact ⟨hn, rfl, rfl, rfl⟩
  | d :: rest =>
    simp only [unmarshalItems] at h
    split at h
    · cases h
    · next v hv =>
      split at h
      · cases h
      · next vs' hvs =>
        cases h
        have hfirst := crossed_of_unmarshalAt (n + 1) d v hv
        obtain ⟨hwithin, hplain, htranscript, hdepth⟩ := crossed_of_unmarshalItems n rest vs' hn hvs
        have hdeep := hfirst.within
        refine ⟨?_, Bool.and_eq_true_iff.mpr ⟨hfirst.plain, hplain⟩, ?_, ?_⟩
        · rw [depthItems]
          omega
        · rw [Value.transcriptItems, normalItems, hfirst.transcript, htranscript]
        · rw [Value.depthItems, depthItems, hfirst.depth, hdepth]

theorem crossed_of_unmarshalEntries (n : Nat) (entries : List (String × Data))
    (vs : List (String × Value)) (hn : n ≤ nestingLimit)
    (h : unmarshalEntries (n + 1) entries = .ok vs) :
    n + depthEntries entries ≤ nestingLimit ∧ isPlainEntries entries = true ∧
      Value.transcriptEntries vs = normalEntries entries ∧
      Value.depthEntries vs = depthEntries entries := by
  match entries with
  | [] =>
    cases h
    exact ⟨hn, rfl, rfl, rfl⟩
  | (k, d) :: rest =>
    simp only [unmarshalEntries] at h
    split at h
    · cases h
    · next v hv =>
      split at h
      · cases h
      · next vs' hvs =>
        cases h
        have hfirst := crossed_of_unmarshalAt (n + 1) d v hv
        obtain ⟨hwithin, hplain, htranscript, hdepth⟩ := crossed_of_unmarshalEntries n rest vs' hn hvs
        have hdeep := hfirst.within
        refine ⟨?_, Bool.and_eq_true_iff.mpr ⟨hfirst.plain, hplain⟩, ?_, ?_⟩
        · rw [depthEntries]
          omega
        · rw [Value.transcriptEntries, normalEntries, hfirst.transcript, htranscript]
        · rw [Value.depthEntries, depthEntries, hfirst.depth, hdepth]

end

end Data

/-! ### Both ways -/

/-- A value crosses into a script exactly when its depth is within the limit; it arrives as its
    transcript, which crosses back to the same value.  A script value crosses exactly when its depth is
    within the limit and every part is of a known kind; its value crosses again, to the normal form,
    and comes back unchanged. -/
theorem marshal_bijection :
    (∀ v : Value, v.depth ≤ 64 →
      v.marshal = .ok v.transcript ∧ v.transcript.unmarshal = .ok v) ∧
    (∀ v : Value, 64 < v.depth → v.marshal = .error (.tooDeep 64)) ∧
    (∀ d : Data, (∃ v, d.unmarshal = .ok v) ↔ d.depth ≤ 64 ∧ d.isPlain = true) ∧
    (∀ (d : Data) (v : Value), d.unmarshal = .ok v →
      v.marshal = .ok d.normal ∧ d.normal.unmarshal = .ok v) := by
  have hinto : ∀ v : Value, v.depth ≤ 64 →
      v.marshal = .ok v.transcript ∧ v.transcript.unmarshal = .ok v := by
    intro v hv
    have hdepth : 0 + v.depth ≤ nestingLimit := by rwa [Nat.zero_add]
    exact ⟨Value.marshalAt_of_le 0 v hdepth, Data.unmarshalAt_transcript 0 v hdepth⟩
  refine ⟨hinto, ?_, ?_, ?_⟩
  · intro v hv
    exact Value.marshalAt_of_gt 0 v (by rwa [Nat.zero_add])
  · intro d
    constructor
    · rintro ⟨v, hv⟩
      have hcrossed := Data.crossed_of_unmarshalAt 0 d v hv
      have hwithin := hcrossed.within
      rw [Nat.zero_add] at hwithin
      exact ⟨hwithin, hcrossed.plain⟩
    · rintro ⟨hdepth, hplain⟩
      exact Data.exists_unmarshalAt 0 d (by rwa [Nat.zero_add]) hplain
  · intro d v hv
    have hcrossed := Data.crossed_of_unmarshalAt 0 d v hv
    have hwithin := hcrossed.within
    rw [Nat.zero_add, ← hcrossed.depth] at hwithin
    rw [← hcrossed.transcript]
    exact hinto v hwithin

end ScriptBridge
