/-
  ScriptBridge/Proofs/Platform/EventForm.lean
  ===========================================
  **Events through their document form and back.**

  The document of an event has its kind and the members of that kind, each under
  its own name, so the reader finds every one of them; a button without text or
  image lacks the member and reads as such a button.  All literals are those of
  words, the items of a table apart, which go the way of any value.
-/
import ScriptBridge.Platform.EventReader
import ScriptBridge.Proofs.Json.ValueForm

namespace ScriptBridge

namespace PlatformEvent

/-- The items of the table, if the event is about a new one. -/
def items : PlatformEvent → List Value
  | .table _ _ values => values
  | _ => []

/-- The event of a document that is not nested too deeply. -/
def event? (j : Json) : Option PlatformEvent :=
  if j.nesting ≤ Json.nestingLimit then ofJson? j else none

/-- The members of an event, its kind apart. -/
def body (e : PlatformEvent) : List (String × Json) :=
  e.membersWith fun values => .array (Value.toJsonItems values)

theorem toJson_eq (e : PlatformEvent) : e.toJson = .object (("kind", .string e.kindName) :: e.body) := rfl

/-! ### The literals -/

/-- Every number literal is that of a word or of a double in a table. -/
theorem forall_numerals_toJson {Q : Numeral → Prop} (hint : ∀ m, Q (Numeral.ofInt m)) (e : PlatformEvent)
    (hfloat : ∀ d, .float d ∈ Value.partsItems e.items → Q (Numeral.ofDouble d)) :
    ∀ n ∈ e.toJson.numerals, Q n := by
  cases e with
  | button id frame text image =>
    cases text <;> cases image <;>
      simp [toJson_eq, body, membersWith, frameMembers, optionalMember, wordJson, Json.numerals,
        Json.numeralsMembers, hint]
  | table id frame values =>
    intro n hn
    simp only [toJson_eq, body, membersWith, frameMembers, wordJson, Json.numerals,
      Json.numeralsMembers, List.nil_append, List.cons_append, List.mem_cons, List.append_nil] at hn
    rcases hn with rfl | rfl | rfl | rfl | rfl | hn
    · exact hint _
    · exact hint _
    · exact hint _
    · exact hint _
    · exact hint _
    · exact Value.forall_numeralsItems_toJson hint values hfloat n hn
  | _ =>
    simp [toJson_eq, body, membersWith, frameMembers, wordJson, Json.numerals, Json.numeralsMembers,
      hint]

theorem wellFormed_toJson {e : PlatformEvent} (h : ∀ d, .float d ∉ Value.partsItems e.items) :
    e.toJson.WellFormed :=
  forall_numerals_toJson Numeral.wellFormed_ofInt e fun d hd => absurd hd (h d)

/-! ### Reading it back -/

theorem toValue?_wordJson (a : Int64) : (wordJson a).toValue? = some (.int a) :=
  Numeral.toValue?_ofInt rfl

theorem toWord?_ofInt (a : Int64) : (Numeral.ofInt a.toInt).toWord? = some a :=
  Numeral.toWord?_ofInt rfl

/-- Every literal of the document is in range. -/
theorem exists_toValue? {e : PlatformEvent} (h : Value.Exact (Value.partsItems e.items)) :
    ∃ v, e.toJson.toValue? = some v := by
  have hvalues := Value.toValueItems?_toJson e.items h
  cases e with
  | button id frame text image =>
    cases text <;> cases image <;>
      simp [toJson_eq, body, membersWith, frameMembers, optionalMember, Json.toValue?,
        Json.toValueMembers?, toValue?_wordJson]
  | table id frame values =>
    rw [items] at hvalues
    simp [toJson_eq, body, membersWith, frameMembers, Json.toValue?, Json.toValueMembers?,
      toValue?_wordJson, hvalues]
  | _ =>
    simp [toJson_eq, body, membersWith, frameMembers, Json.toValue?, Json.toValueMembers?,
      toValue?_wordJson]

theorem tagged?_toJson (e : PlatformEvent) :
    e.toJson.tagged? "kind" = some (e.kindName, .object e.body) := by
  cases e with
  | button id frame text image =>
    cases text <;> cases image <;>
      simp [toJson_eq, Json.tagged?, Json.members, body, membersWith, frameMembers, optionalMember]
  | _ => simp [toJson_eq, Json.tagged?, Json.members, body, membersWith, frameMembers]

theorem record?_body (e : PlatformEvent) :
    Json.record? (memberNames e.kindName) (.object e.body) = some e.body := by
  cases e with
  | button id frame text image =>
    cases text <;> cases image <;>
      simp [Json.record?, Json.knownMembers, Json.members, memberNames, kindName, body, membersWith,
        frameMembers, optionalMember]
  | _ =>
    simp [Json.record?, Json.knownMembers, Json.members, memberNames, kindName, body, membersWith,
      frameMembers]

theorem ofMembers?_body {e : PlatformEvent} (hexact : Value.Exact (Value.partsItems e.items))
    (hdoc : Value.Documentary (Value.partsItems e.items)) : ofMembers? e.kindName e.body = some e := by
  have hvalues := Value.toValueItems?_toJson e.items hexact
  rw [Value.plainItems_eq_self e.items hdoc] at hvalues
  cases e with
  | button id frame text image =>
    cases text <;> cases image <;>
      simp [ofMembers?, kindName, body, membersWith, frameMembers, optionalMember, frame?, Json.word?,
        Json.optionalText?, Assoc.find?, wordJson, toWord?_ofInt]
  | table id frame values =>
    rw [items] at hvalues
    simp [ofMembers?, kindName, body, membersWith, frameMembers, frame?, Json.word?, Json.items?,
      Assoc.find?, wordJson, toWord?_ofInt, hvalues]
  | _ =>
    simp [ofMembers?, kindName, body, membersWith, frameMembers, frame?, point?, Json.word?,
      Json.text?, Json.flag?, Assoc.find?, wordJson, toWord?_ofInt]

theorem ofJson?_toJson {e : PlatformEvent} (hexact : Value.Exact (Value.partsItems e.items))
    (hdoc : Value.Documentary (Value.partsItems e.items)) : ofJson? e.toJson = some e := by
  obtain ⟨v, hv⟩ := exists_toValue? hexact
  simp only [ofJson?, hv, tagged?_toJson, record?_body, ofMembers?_body hexact hdoc,
    Option.bind_eq_bind, Option.bind_some]

/-- The text of an event reads back as the event, unless it is nested too deeply. -/
theorem read_text_toJson {e : PlatformEvent} (hexact : Value.Exact (Value.partsItems e.items))
    (hdoc : Value.Documentary (Value.partsItems e.items)) :
    (Json.read e.toJson.text).bind event? =
      if e.toJson.nesting ≤ Json.nestingLimit then some e else none := by
  rw [Json.read_text (wellFormed_toJson hexact.float), Option.bind_some, event?,
    ofJson?_toJson hexact hdoc]

end PlatformEvent

/-- Values and events through their text and back.  Up to the limit of nesting a value without doubles
    comes back with its octets as a list of numbers and its handles as numbers, so unchanged if it has
    neither; nothing that is read has any; and an event comes back as it was. -/
theorem document_form_reads_back :
    (∀ v : Value, Value.Exact v.parts →
      (Json.read v.toJson.text).bind Json.value? =
        if v.nesting ≤ Json.nestingLimit then some v.plain else none) ∧
    (∀ v : Value, Value.Documentary v.parts → v.plain = v) ∧
    (∀ (text : String) (v : Value), (Json.read text).bind Json.value? = some v →
      Value.Documentary v.parts) ∧
    (∀ e : PlatformEvent, Value.Exact (Value.partsItems e.items) →
      Value.Documentary (Value.partsItems e.items) →
      (Json.read e.toJson.text).bind PlatformEvent.event? =
        if e.toJson.nesting ≤ Json.nestingLimit then some e else none) := by
  refine ⟨fun v hv => Value.read_text_toJson hv, Value.plain_eq_self, ?_, ?_⟩
  · intro text v hread
    obtain ⟨j, -, hj⟩ := Option.bind_eq_some_iff.mp hread
    unfold Json.value? at hj
    split at hj
    · exact Json.documentary_of_toValue? j hj
    · cases hj
  · intro e hexact hdoc
    exact PlatformEvent.read_text_toJson hexact hdoc

/-- Octets and a handle inside a map with an escaped key, and a table of plain values. -/
theorem document_form_reads_back_nested :
    (Json.read (Value.map [("a\n", .bytes [255]), ("\u00e9", .list [.object ⟨7⟩, .int (-3)])]).toJson.text).bind
        Json.value? =
      some (.map [("a\n", .list [.int 255]), ("\u00e9", .list [.int 7, .int (-3)])]) ∧
    (Json.read (PlatformEvent.table 1 ⟨0, 0, 5, 6⟩ [.list [.string "x"], .nil]).toJson.text).bind
        PlatformEvent.event? =
      some (.table 1 ⟨0, 0, 5, 6⟩ [.list [.string "x"], .nil]) := by
  constructor
  · refine (document_form_reads_back.1 _ ⟨?_, ?_, ?_⟩).trans ?_
    · simp [Value.parts, Value.partsItems, Value.partsEntries]
    · intro entries hmem
      simp only [Value.parts, Value.partsItems, Value.partsEntries] at hmem
      simp at hmem
      subst hmem
      exact List.pairwise_pair.mpr (by decide)
    · intro h hmem
      simp [Value.parts, Value.partsItems, Value.partsEntries] at hmem
      subst hmem
      decide
    · rfl
  · refine (document_form_reads_back.2.2.2 _ ⟨?_, ?_, ?_⟩ ⟨?_, ?_⟩).trans ?_
    · simp [PlatformEvent.items, Value.parts, Value.partsItems]
    · simp [PlatformEvent.items, Value.parts, Value.partsItems]
    · simp [PlatformEvent.items, Value.parts, Value.partsItems]
    · simp [PlatformEvent.items, Value.parts, Value.partsItems]
    · simp [PlatformEvent.items, Value.parts, Value.partsItems]
    · rfl

end ScriptBridge
