/-
  ScriptBridge/Proofs/CommandLine/Line.lean
  =========================================
  **Every line of a transcript is one line of its text.**

  A reader takes the text of a transcript apart at its line breaks.  Documents
  have none, because strings escape them and number literals have other
  characters only, so of all that is printed only the name that was clicked can
  break a line.  And since no line ends in a carriage return, nothing is lost
  (`lines_join`).
-/
import ScriptBridge.CommandLine.Run
import ScriptBridge.Proofs.Platform.EventForm

namespace ScriptBridge

/-! ### Characters of documents -/

/-- There is no newline and no carriage return. -/
def Text.unbroken (cs : List Char) : Bool := cs.all fun c => c != '\n' && c != '\r'

@[simp] theorem Text.unbroken_append (a b : List Char) :
    unbroken (a ++ b) = (unbroken a && unbroken b) := List.all_append

@[simp] theorem Text.unbroken_cons (c : Char) (cs : List Char) :
    unbroken (c :: cs) = (c != '\n' && c != '\r' && unbroken cs) := rfl

@[simp] theorem Text.unbroken_nil : unbroken [] = true := rfl

theorem Text.unbroken_of_digits {cs : List Char} (h : ∀ c ∈ cs, isDigit c = true) : unbroken cs = true := by
  have hdigit : ∀ c : Char, isDigit c = true → (c != '\n' && c != '\r') = true := by
    intro c hc
    have hnewline : c ≠ '\n' := by
      rintro rfl
      exact absurd hc (by decide)
    have hreturn : c ≠ '\r' := by
      rintro rfl
      exact absurd hc (by decide)
    simp [hnewline, hreturn]
  exact List.all_eq_true.mpr fun c hc => hdigit c (h c hc)

theorem Text.unbroken_toDigits (n : Nat) : unbroken (Nat.toDigits 10 n) = true :=
  unbroken_of_digits (Numeral.isDigit_toDigits n)

theorem Text.unbroken_sublist {cs cs' : List Char} (h : cs'.Sublist cs) (hcs : unbroken cs = true) :
    unbroken cs' = true :=
  List.all_eq_true.mpr fun c hc => List.all_eq_true.mp hcs c (h.subset hc)

namespace Numeral

theorem unbroken_chars {n : Numeral} (hwhole : Text.unbroken n.whole = true)
    (hfraction : Text.unbroken n.fraction = true)
    (hexponent : ∀ sign digits, n.exponent = some (sign, digits) →
      Text.unbroken (sign.toList ++ digits) = true) : Text.unbroken n.chars = true := by
  have hsign : Text.unbroken (if n.negative then ['-'] else []) = true := by
    cases n.negative <;> rfl
  have hpoint : Text.unbroken (if n.fraction.isEmpty then [] else '.' :: n.fraction) = true := by
    cases n.fraction.isEmpty
    · exact hfraction
    · rfl
  rw [chars, Text.unbroken_append, Text.unbroken_append, Text.unbroken_append, hsign, hwhole, hpoint]
  cases he : n.exponent with
  | none => rfl
  | some e => exact hexponent e.1 e.2 he

theorem unbroken_ofInt (n : Int) : Text.unbroken (ofInt n).chars = true :=
  unbroken_chars (Text.unbroken_toDigits n.natAbs) rfl fun _ _ h => by cases h

theorem unbroken_ofDouble (d : Double) : Text.unbroken (ofDouble d).chars = true := by
  unfold ofDouble
  generalize Decimal.shortest .toEven d = s
  have hdigits := Text.unbroken_toDigits s.digits
  have hzeros : ∀ n, Text.unbroken (List.replicate n '0') = true := by
    intro n
    simp [Text.unbroken]
  dsimp only
  split
  · apply unbroken_chars
    · have hfront := Text.unbroken_sublist (List.take_sublist
        ((Nat.toDigits 10 s.digits).length - (-s.exponent).toNat) _) hdigits
      simp only [Decimal.wholeDigits, Text.unbroken_append, hzeros, Bool.and_true]
      split
      · rfl
      · exact hfront
    · have hback := Text.unbroken_sublist (List.drop_sublist
        ((Nat.toDigits 10 s.digits).length - (-s.exponent).toNat) _) hdigits
      split
      · rfl
      · simp only [Decimal.fractionDigits, Text.unbroken_append, hzeros, hback, Bool.and_self]
    · intro sign digits h
      cases h
  · apply unbroken_chars
    · exact Text.unbroken_sublist (List.take_sublist ..) hdigits
    · exact Text.unbroken_sublist (List.drop_sublist ..) hdigits
    · intro sign digits h
      cases h
      rw [Text.unbroken_append, Text.unbroken_toDigits]
      split <;> rfl

end Numeral

namespace Json

theorem unbroken_hexDigit (n : Nat) : (hexDigit n != '\n' && hexDigit n != '\r') = true := by
  have hall : ∀ k < 16, (Nat.digitChar k != '\n' && Nat.digitChar k != '\r') = true := by decide
  exact hall (n % 16) (Nat.mod_lt n (by decide))

theorem unbroken_escapeChar (c : Char) : Text.unbroken (escapeChar c) = true := by
  have hhex := unbroken_hexDigit
  unfold escapeChar
  repeat' split
  all_goals simp_all [Text.unbroken]

theorem unbroken_quote (s : String) : Text.unbroken (quote s) = true := by
  have hescaped : Text.unbroken (s.toList.flatMap escapeChar) = true := by
    induction s.toList with
    | nil => rfl
    | cons c cs ih => simp [unbroken_escapeChar, ih]
  simp [quote, hescaped]

mutual

/-- The text of a document is unbroken when its number literals are. -/
theorem unbroken_compact : ∀ j : Json, (∀ n ∈ j.numerals, Text.unbroken n.chars = true) →
    Text.unbroken (compact j) = true
  | .null, _ | .bool true, _ | .bool false, _ | .illFormed, _ => by decide
  | .number n, h => h n List.mem_cons_self
  | .string s, _ => unbroken_quote s
  | .array items, h => by
    simp [compact, unbroken_compactItems items h]
  | .object members, h => by
    simp [compact, unbroken_compactMembers members h]

theorem unbroken_compactItems : ∀ items : List Json,
    (∀ n ∈ numeralsItems items, Text.unbroken n.chars = true) → Text.unbroken (compactItems items) = true
  | [], _ => rfl
  | [j], h => by
    rw [compactItems]
    exact unbroken_compact j fun n hn => h n (List.mem_append_left _ hn)
  | j :: j' :: rest, h => by
    have hj := unbroken_compact j fun n hn => h n (List.mem_append_left _ hn)
    have hrest := unbroken_compactItems (j' :: rest) fun n hn => h n (List.mem_append_right _ hn)
    simp [compactItems_cons, hj, hrest]

theorem unbroken_compactMembers : ∀ members : List (String × Json),
    (∀ n ∈ numeralsMembers members, Text.unbroken n.chars = true) →
      Text.unbroken (compactMembers members) = true
  | [], _ => rfl
  | [(k, j)], h => by
    have hj := unbroken_compact j fun n hn => h n (List.mem_append_left _ hn)
    simp [compactMembers, unbroken_quote, hj]
  | (k, j) :: m :: rest, h => by
    have hj := unbroken_compact j fun n hn => h n (List.mem_append_left _ hn)
    have hrest := unbroken_compactMembers (m :: rest) fun n hn => h n (List.mem_append_right _ hn)
    simp [compactMembers_cons, unbroken_quote, hj, hrest]

end

end Json

theorem PlatformEvent.unbroken_toJson (e : PlatformEvent) : Text.unbroken e.toJson.compact = true :=
  Json.unbroken_compact _ <| e.forall_numerals_toJson Numeral.unbroken_ofInt fun d _ =>
    Numeral.unbroken_ofDouble d

theorem Value.unbroken_toJsonItems (items : List Value) :
    Text.unbroken (Json.array (toJsonItems items)).compact = true :=
  Json.unbroken_compact _ <| forall_numeralsItems_toJson Numeral.unbroken_ofInt items fun d _ =>
    Numeral.unbroken_ofDouble d

/-! ### Texts of several lines -/

namespace Text

/-- The text is a line: no newline is in it, and no carriage return at its end. -/
structure IsLine (s : String) : Prop where
  newline : '\n' ∉ s.toList
  ending : s.toList.getLast? ≠ some '\r'

theorem isLine_of_unbroken {s : String} (h : unbroken s.toList = true) : IsLine s := by
  have hall := List.all_eq_true.mp h
  constructor
  · intro hmem
    exact absurd (hall _ hmem) (by decide)
  · intro hlast
    exact absurd (hall _ (List.mem_of_getLast? hlast)) (by decide)

/-- Only the end of a line must be free of carriage returns. -/
theorem isLine_append {s tail : String} (hs : '\n' ∉ s.toList) (htail : IsLine tail)
    (hne : tail.toList ≠ []) : IsLine (s ++ tail) := by
  constructor
  · rw [String.toList_append, List.mem_append]
    rintro (hmem | hmem)
    · exact hs hmem
    · exact htail.newline hmem
  · rw [String.toList_append, List.getLast?_append, List.getLast?_eq_some_getLast hne, Option.some_or,
      ← List.getLast?_eq_some_getLast hne]
    exact htail.ending

theorem linesFrom_cons {c : Char} (hc : c ≠ '\n') (line cs : List Char) :
    linesFrom line (c :: cs) = linesFrom (c :: line) cs := by
  cases line <;> simp [linesFrom, hc]

theorem linesFrom_newline {line : List Char} (hline : line.head? ≠ some '\r') (cs : List Char) :
    linesFrom line ('\n' :: cs) = line.reverse :: linesFrom [] cs := by
  cases line with
  | nil => simp [linesFrom]
  | cons c line =>
    have hc : c ≠ '\r' := fun h => hline (congrArg some h)
    rw [linesFrom, if_pos rfl]
    intro line' h
    cases h
    exact hc rfl

/-- What comes before a newline is a line, together with what was read of it already. -/
theorem linesFrom_append {line cs : List Char} (hnewline : '\n' ∉ cs)
    (hending : (cs.reverse ++ line).head? ≠ some '\r') (rest : List Char) :
    linesFrom line (cs ++ '\n' :: rest) = (line.reverse ++ cs) :: linesFrom [] rest := by
  induction cs generalizing line with
  | nil =>
    rw [List.reverse_nil, List.nil_append] at hending
    rw [List.nil_append, linesFrom_newline hending, List.append_nil]
  | cons c cs ih =>
    have hc : c ≠ '\n' := fun h => hnewline (h ▸ List.mem_cons_self)
    rw [List.reverse_cons, List.append_assoc, List.singleton_append] at hending
    rw [List.cons_append, linesFrom_cons hc, ih (fun h => hnewline (List.mem_cons_of_mem _ h)) hending,
      List.reverse_cons, List.append_assoc, List.singleton_append]

/-- Lines that are put under each other are the lines of the whole. -/
theorem lines_join {texts : List String} (h : ∀ s ∈ texts, IsLine s) :
    lines (String.join (texts.map fun s => s ++ "\n")) = texts := by
  have hjoined : (String.join (texts.map fun s => s ++ "\n")).toList =
      texts.flatMap fun s => s.toList ++ ['\n'] := by
    simp [String.toList_join, List.flatMap_map]
  unfold lines
  rw [hjoined]
  clear hjoined
  induction texts with
  | nil => rfl
  | cons s rest ih =>
    have hs := h s List.mem_cons_self
    have hhead : (s.toList.reverse ++ []).head? ≠ some '\r' := by
      rw [List.append_nil, List.head?_reverse]
      exact hs.ending
    rw [List.flatMap_cons, List.append_assoc, List.singleton_append,
      linesFrom_append hs.newline hhead, List.map_cons, ih fun s hs => h s (List.mem_cons_of_mem _ hs)]
    simp

/-! ### How a text begins -/

def begins (front s : String) : Bool := front.toList.isPrefixOf s.toList

theorem begins_append (front s : String) : begins front (front ++ s) = true := by
  rw [begins, String.toList_append, List.isPrefixOf_iff_prefix]
  exact List.prefix_append ..

/-- Two fronts that differ where both have a character have no text in common. -/
theorem begins_append_of_differ {front other : String}
    (h : (front.toList.zip other.toList).any (fun c => c.1 != c.2) = true) (s : String) :
    begins front (other ++ s) = false := by
  rw [begins, String.toList_append]
  generalize front.toList = cs, other.toList = ds at h
  induction cs generalizing ds with
  | nil => cases h
  | cons c cs ih =>
    cases ds with
    | nil => cases h
    | cons d ds =>
      rw [List.zip_cons_cons, List.any_cons, Bool.or_eq_true] at h
      rw [List.cons_append, List.isPrefixOf_cons_cons, Bool.and_eq_false_imp]
      intro hsame
      rcases h with hdiffer | hrest
      · rw [eq_of_beq hsame] at hdiffer
        simp at hdiffer
      · exact ih ds hrest

end Text

/-! ### Lines of a transcript -/

namespace CommandLine.Line

/-- What a line starts with. -/
def label : Line → String
  | .event _ => "EVENT:"
  | .callback _ => "CALLBACK:"
  | .status _ => "STATUS:"
  | .click _ _ => "CLICK:"
  | .success | .failure => "RESULT:"
  | .errorCode _ => "ERROR_CODE:"
  | .errorMessage _ => "ERROR_MSG_JSON:"

@[simp] theorem label_event (e : PlatformEvent) : (event e).label = "EVENT:" := rfl

@[simp] theorem label_callback (call : List Value) : (callback call).label = "CALLBACK:" := rfl

/-- What a line has after its label. -/
def body : Line → String
  | .event e => e.toJson.text
  | .callback call => (Json.array (Value.toJsonItems call)).text
  | .status s => Word.text s.code
  | .click name (some s) => name ++ ":" ++ Word.text s.code
  | .click name none => name ++ ":unbound"
  | .success => "OK"
  | .failure => "ERROR"
  | .errorCode code => code
  | .errorMessage message => (Json.string message).text

theorem text_eq (l : Line) : l.text = l.label ++ l.body := by
  cases l with
  | click name outcome => cases outcome <;> simp [text, label, body, String.append_assoc]
  | success => decide
  | failure => decide
  | _ => rfl

def labels : List String :=
  ["EVENT:", "CALLBACK:", "STATUS:", "CLICK:", "RESULT:", "ERROR_CODE:", "ERROR_MSG_JSON:"]

theorem label_mem (l : Line) : l.label ∈ labels := by
  cases l <;> simp [label, labels]

theorem labels_differ : ∀ front ∈ labels, ∀ other ∈ labels, front ≠ other →
    (front.toList.zip other.toList).any (fun c => c.1 != c.2) = true := by
  decide

/-- The text of a line shows which label it has. -/
theorem begins_text {front : String} (hfront : front ∈ labels) (l : Line) :
    Text.begins front l.text = (l.label == front) := by
  rw [l.text_eq]
  by_cases h : l.label = front
  · rw [h, Text.begins_append, beq_self_eq_true]
  · rw [Text.begins_append_of_differ (labels_differ front hfront l.label l.label_mem (Ne.symm h)),
      beq_eq_false_iff_ne.mpr h]

/-- The parts of a line that are printed as they are break no line. -/
def Plain : Line → Prop
  | .click name _ => '\n' ∉ name.toList
  | .errorCode code => Text.unbroken code.toList = true
  | _ => True

theorem unbroken_status (s : Status) : Text.unbroken (Word.text s.code).toList = true := by
  cases s <;> decide

theorem unbroken_label (l : Line) : Text.unbroken l.label.toList = true := by
  have hall : ∀ front ∈ labels, Text.unbroken front.toList = true := by decide
  exact hall l.label l.label_mem

theorem isLine_text {l : Line} (h : l.Plain) : Text.IsLine l.text := by
  have hunbroken (hbody : Text.unbroken l.body.toList = true) : Text.IsLine l.text := by
    apply Text.isLine_of_unbroken
    rw [l.text_eq, String.toList_append, Text.unbroken_append, l.unbroken_label, hbody]
    rfl
  cases l with
  | event e => exact hunbroken (by rw [body, Json.text, String.toList_ofList, e.unbroken_toJson])
  | callback call =>
    exact hunbroken (by rw [body, Json.text, String.toList_ofList, Value.unbroken_toJsonItems])
  | status s => exact hunbroken (unbroken_status s)
  | click name outcome =>
    have hname : '\n' ∉ ("CLICK:" ++ name).toList := by
      rw [String.toList_append, List.mem_append]
      rintro (hlabel | hmem)
      · exact absurd hlabel (by decide)
      · exact h hmem
    cases outcome with
    | none =>
      exact Text.isLine_append hname (Text.isLine_of_unbroken (by decide)) (by decide)
    | some s =>
      rw [text, String.append_assoc]
      refine Text.isLine_append hname (Text.isLine_of_unbroken ?_) (by simp)
      rw [String.toList_append, Text.unbroken_append, unbroken_status]
      decide
  | success => exact hunbroken (by decide)
  | failure => exact hunbroken (by decide)
  | errorCode code => exact hunbroken h
  | errorMessage message =>
    exact hunbroken (by rw [body, Json.text, String.toList_ofList, Json.compact, Json.unbroken_quote])

end CommandLine.Line
end ScriptBridge
