/-
  ScriptBridge/Proofs/Json/Reading.lean
  =====================================
  **What is printed reads back.**

  The compact text of a document has one reading, the document itself, provided
  that its numbers are literals that a text can have (`Numeral.WellFormed`).  A
  reader returns what it read and the rest of the text, so each lemma is about a
  printed part with a rest behind it.  The rest must not go on with a number
  (`Apart`); commas, brackets and the end of the text do not.

  The reader of nodes runs on fuel.  A node needs more of it than its text has
  characters, and the items of an array or the members of an object need one
  more, which is what their brackets bring along.
-/
import Mathlib.Data.List.TakeDrop
import ScriptBridge.Json.Printer
import ScriptBridge.Json.Reader

namespace ScriptBridge

/-! ### Numbers -/

/-- The literal is one that a text can have. -/
structure Numeral.WellFormed (n : Numeral) : Prop where
  whole : n.whole ≠ []
  digits : ∀ c ∈ n.whole, Text.isDigit c = true
  leading : n.whole.head? = some '0' → n.whole.length = 1
  fraction : ∀ c ∈ n.fraction, Text.isDigit c = true
  exponent : ∀ sign digits, n.exponent = some (sign, digits) →
    digits ≠ [] ∧ (∀ c ∈ digits, Text.isDigit c = true) ∧ ∀ c ∈ sign, c = '+' ∨ c = '-'

namespace Json

/-- The text does not go on with a number. -/
def Apart (rest : List Char) : Prop :=
  ∀ c ∈ rest.head?, Text.isDigit c = false ∧ c ≠ '.' ∧ c ≠ 'e' ∧ c ≠ 'E'

theorem apart_nil : Apart [] := by
  intro c hc
  cases hc

/-- What follows a node inside an array or an object. -/
theorem apart_cons {c : Char} (hc : c ∈ [',', ']', '\x7d']) (rest : List Char) : Apart (c :: rest) := by
  intro c' hc'
  cases hc'
  simp only [List.mem_cons, List.not_mem_nil, or_false] at hc
  rcases hc with rfl | rfl | rfl <;> decide

theorem readDigits_append {digits rest : List Char} (hdigits : ∀ c ∈ digits, Text.isDigit c = true)
    (hrest : ∀ c ∈ rest.head?, Text.isDigit c = false) :
    readDigits (digits ++ rest) = (digits, rest) := by
  rw [readDigits, List.span_eq_takeWhile_dropWhile, List.takeWhile_append_of_pos hdigits,
    List.dropWhile_append_of_pos hdigits]
  cases rest with
  | nil => simp
  | cons c rest =>
    have hc : Text.isDigit c = false := hrest c rfl
    simp [hc]

/-- The characters of the digits after the point, with the point. -/
def fractionChars (digits : List Char) : List Char :=
  if digits.isEmpty then [] else '.' :: digits

theorem readFraction_append {digits rest : List Char} (hdigits : ∀ c ∈ digits, Text.isDigit c = true)
    (hrest : ∀ c ∈ rest.head?, Text.isDigit c = false ∧ c ≠ '.') :
    readFraction (fractionChars digits ++ rest) = some (digits, rest) := by
  cases digits with
  | nil =>
    simp only [fractionChars, List.isEmpty_nil, if_true, List.nil_append]
    unfold readFraction
    split
    · exact absurd rfl (hrest '.' rfl).2
    · rfl
  | cons c digits =>
    have hread := readDigits_append hdigits fun c hc => (hrest c hc).1
    simp only [fractionChars, List.isEmpty_cons, Bool.false_eq_true, if_false, List.cons_append,
      readFraction]
    rw [← List.cons_append, hread]

/-- The characters of the exponent of a number. -/
def exponentChars : Option (Option Char × List Char) → List Char
  | none => []
  | some (sign, digits) => 'e' :: (sign.toList ++ digits)

theorem readExponent_append {exponent : Option (Option Char × List Char)} {rest : List Char}
    (hexponent : ∀ sign digits, exponent = some (sign, digits) →
      digits ≠ [] ∧ (∀ c ∈ digits, Text.isDigit c = true) ∧ ∀ c ∈ sign, c = '+' ∨ c = '-')
    (hrest : Apart rest) :
    readExponent (exponentChars exponent ++ rest) = some (exponent, rest) := by
  cases exponent with
  | none =>
    cases rest with
    | nil => rfl
    | cons c rest =>
      obtain ⟨-, -, he, hE⟩ := hrest c rfl
      simp [exponentChars, readExponent, he, hE]
  | some e =>
    obtain ⟨sign, digits⟩ := e
    obtain ⟨hne, hdigits, hsign⟩ := hexponent sign digits rfl
    have hread := readDigits_append hdigits fun c hc => (hrest c hc).1
    obtain ⟨d, ds, rfl⟩ := List.exists_cons_of_ne_nil hne
    rw [List.cons_append] at hread
    have hd := hdigits d List.mem_cons_self
    cases sign with
    | none =>
      -- The first digit is no sign.
      have hplus : d ≠ '+' := by
        rintro rfl
        simp [Text.isDigit] at hd
      have hminus : d ≠ '-' := by
        rintro rfl
        simp [Text.isDigit] at hd
      simp [exponentChars, readExponent, hplus, hminus, hread]
    | some c =>
      rcases hsign c rfl with rfl | rfl
      · simp [exponentChars, readExponent, hread]
      · simp [exponentChars, readExponent, hread]

theorem chars_eq (n : Numeral) :
    n.chars = (if n.negative then ['-'] else []) ++
      (n.whole ++ (fractionChars n.fraction ++ exponentChars n.exponent)) := by
  unfold Numeral.chars fractionChars exponentChars
  cases n.exponent <;> simp

theorem readUnsigned_append {n : Numeral} (hn : n.WellFormed) {rest : List Char} (hrest : Apart rest) :
    readUnsigned n.negative
      (n.whole ++ (fractionChars n.fraction ++ (exponentChars n.exponent ++ rest))) =
      some (n, rest) := by
  have hexponent := readExponent_append hn.exponent hrest
  -- Behind the whole digits there is a point, an exponent or the rest, behind the others no point.
  have hbehind : ∀ c ∈ (exponentChars n.exponent ++ rest).head?, Text.isDigit c = false ∧ c ≠ '.' := by
    intro c hc
    cases he : n.exponent with
    | none =>
      rw [he] at hc
      exact ⟨(hrest c hc).1, (hrest c hc).2.1⟩
    | some e =>
      rw [he] at hc
      cases hc
      decide
  have hfraction := readFraction_append hn.fraction hbehind
  have hpoint : ∀ c ∈ (fractionChars n.fraction ++ (exponentChars n.exponent ++ rest)).head?,
      Text.isDigit c = false := by
    intro c hc
    cases hf : n.fraction with
    | nil =>
      rw [hf] at hc
      exact (hbehind c hc).1
    | cons d ds =>
      rw [hf] at hc
      cases hc
      decide
  have hwhole := readDigits_append hn.digits hpoint
  have hleading : (n.whole.isEmpty || (n.whole.head? == some '0' && decide (1 < n.whole.length))) =
      false := by
    have hne := hn.whole
    have hzero := hn.leading
    cases hw : n.whole.head? == some '0' <;> simp_all
  simp [readUnsigned, hwhole, hfraction, hexponent, hleading]

/-- A number reads back. -/
theorem readNumeral_chars {n : Numeral} (hn : n.WellFormed) {rest : List Char} (hrest : Apart rest) :
    readNumeral (n.chars ++ rest) = some (n, rest) := by
  have hread := readUnsigned_append hn hrest
  rw [chars_eq]
  simp only [List.append_assoc]
  cases hsign : n.negative with
  | true =>
    rw [hsign] at hread
    simp only [if_true, List.cons_append, List.nil_append, readNumeral]
    exact hread
  | false =>
    rw [hsign] at hread
    obtain ⟨c, cs, hw⟩ := List.exists_cons_of_ne_nil hn.whole
    have hc : c ≠ '-' := by
      rintro rfl
      have hdigit := hn.digits '-' (by simp [hw])
      simp [Text.isDigit] at hdigit
    rw [hw] at hread ⊢
    simp only [Bool.false_eq_true, if_false, List.nil_append, List.cons_append] at hread ⊢
    unfold readNumeral
    split
    · next heq => exact absurd (List.cons.inj heq).1 hc
    · exact hread

/-! ### Strings -/

theorem hexValue_hexDigit (n : Nat) : hexValue (hexDigit n) = some (n % 16) := by
  have hall : ∀ d < 16, hexValue (Nat.digitChar d) = some d := by decide
  exact hall (n % 16) (Nat.mod_lt n (by decide))

/-- The escape of a control character that has no letter. -/
theorem readEscape_control {c : Char} (hc : c.toNat < 0x20) (cs : List Char) :
    readEscape ('u' :: '0' :: '0' :: hexDigit (c.toNat / 16) :: hexDigit c.toNat :: cs) =
      some (some c, cs) := by
  have hzero : hexValue '0' = some 0 := by decide
  have hnumber : c.toNat / 16 % 16 * 16 + c.toNat % 16 = c.toNat := by omega
  have hhigh : ¬ (0xDC00 ≤ c.toNat ∧ c.toNat ≤ 0xDFFF) := by omega
  have hlow : ¬ (0xD800 ≤ c.toNat ∧ c.toNat ≤ 0xDBFF) := by omega
  simp only [readEscape, readUnicode, readHex4, hzero, hexValue_hexDigit, Option.bind_eq_bind,
    Option.bind_some, Nat.zero_mul, Nat.zero_add, hnumber, if_neg hhigh, if_neg hlow,
    Char.ofNat_toNat]

theorem readChars_escapeChar (c : Char) (fuel : Nat) (cs : List Char) :
    readChars (fuel + 1) (escapeChar c ++ cs) =
      (readChars fuel cs).map fun r => (some c :: r.1, r.2) := by
  -- Behind a backslash comes an escape that stands for the character.
  have hescaped : ∀ rest, readEscape rest = some (some c, cs) →
      readChars (fuel + 1) ('\\' :: rest) =
        (readChars fuel cs).map fun r => (some c :: r.1, r.2) := by
    intro rest hrest
    have hquote : '\\' ≠ '"' := by decide
    simp only [readChars, if_neg hquote, if_true, hrest, Option.bind_eq_bind, Option.bind_some]
    cases readChars fuel cs <;> rfl
  unfold escapeChar
  split
  · next hc => exact hescaped _ (by subst hc; rfl)
  split
  · next hc => exact hescaped _ (by subst hc; rfl)
  split
  · next hc => exact hescaped _ (by subst hc; rfl)
  split
  · next hc => exact hescaped _ (by subst hc; rfl)
  split
  · next hc => exact hescaped _ (by subst hc; rfl)
  split
  · next hc => exact hescaped _ (by subst hc; rfl)
  split
  · next hc => exact hescaped _ (by subst hc; rfl)
  split
  · next hc => exact hescaped _ (readEscape_control hc cs)
  · next hquote hbackslash _ _ _ _ _ hcontrol =>
    simp only [List.cons_append, List.nil_append, readChars, if_neg hquote, if_neg hbackslash,
      if_neg hcontrol]
    cases readChars fuel cs <;> rfl

theorem readChars_append (s rest : List Char) {fuel : Nat} (hfuel : s.length < fuel) :
    readChars fuel (s.flatMap escapeChar ++ '"' :: rest) = some (s.map some, rest) := by
  induction s generalizing fuel with
  | nil =>
    obtain ⟨fuel, rfl⟩ := Nat.exists_eq_add_one_of_ne_zero (Nat.ne_of_gt hfuel)
    rfl
  | cons c s ih =>
    obtain ⟨fuel, rfl⟩ := Nat.exists_eq_add_one_of_ne_zero (Nat.ne_of_gt (Nat.zero_lt_of_lt hfuel))
    rw [List.flatMap_cons, List.append_assoc, readChars_escapeChar,
      ih (Nat.lt_of_succ_lt_succ hfuel)]
    rfl

theorem wholeChars?_map_some (s : List Char) : wholeChars? (s.map some) = some s := by
  induction s with
  | nil => rfl
  | cons c s ih => simp [wholeChars?, ih]

/-- An escape is no shorter than its character. -/
theorem length_le_flatMap_escapeChar (s : List Char) : s.length ≤ (s.flatMap escapeChar).length := by
  have hone : ∀ c, 1 ≤ (escapeChar c).length := by
    intro c
    unfold escapeChar
    split_ifs <;> simp
  induction s with
  | nil => exact Nat.le_refl _
  | cons c s ih =>
    have hc := hone c
    rw [List.flatMap_cons, List.length_append, List.length_cons]
    omega

/-- A text in quotes reads back, after its opening quote. -/
theorem readString_append (s : String) (rest : List Char) :
    readString (s.toList.flatMap escapeChar ++ '"' :: rest) = some (some s, rest) := by
  have hlength := length_le_flatMap_escapeChar s.toList
  have hfuel : s.toList.length < (s.toList.flatMap escapeChar ++ '"' :: rest).length + 1 := by
    rw [List.length_append]
    omega
  have hread := readChars_append s.toList rest hfuel
  simp only [readString, hread, Option.bind_eq_bind, Option.bind_some, wholeChars?_map_some,
    Option.map_some, String.ofList_toList]

/-! ### Nodes -/

mutual

/-- The number literals of a document. -/
def numerals : Json → List Numeral
  | .number n => [n]
  | .array items => numeralsItems items
  | .object members => numeralsMembers members
  | _ => []

def numeralsItems : List Json → List Numeral
  | [] => []
  | j :: rest => numerals j ++ numeralsItems rest

def numeralsMembers : List (String × Json) → List Numeral
  | [] => []
  | (_, j) :: rest => numerals j ++ numeralsMembers rest

end

/-- Every number of the document is one that a text can have. -/
def WellFormed (j : Json) : Prop := ∀ n ∈ j.numerals, n.WellFormed

theorem skipSpace_cons {c : Char} (hc : isSpace c = false) (cs : List Char) :
    skipSpace (c :: cs) = c :: cs := by
  rw [skipSpace, List.dropWhile_cons_of_neg (by simp [hc])]

/-- A number starts with a sign or a digit. -/
theorem head_chars {n : Numeral} (hn : n.WellFormed) :
    ∃ c cs, n.chars = c :: cs ∧ (c = '-' ∨ Text.isDigit c = true) := by
  obtain ⟨d, ds, hw⟩ := List.exists_cons_of_ne_nil hn.whole
  have hd := hn.digits d (by simp [hw])
  rw [chars_eq, hw]
  cases n.negative with
  | true => exact ⟨_, _, rfl, Or.inl rfl⟩
  | false => exact ⟨_, _, rfl, Or.inr hd⟩

/-- The first character of a number is none of those that start something else. -/
theorem ne_of_starts {c c' : Char} (hc : c = '-' ∨ Text.isDigit c = true)
    (hc' : c' ∈ ['n', 't', 'f', '"', '[', ']', '\x7b', ' ', '\n', '\t', '\r']) : c ≠ c' := by
  rintro rfl
  simp only [List.mem_cons, List.not_mem_nil, or_false] at hc'
  rcases hc' with rfl | rfl | rfl | rfl | rfl | rfl | rfl | rfl | rfl | rfl | rfl <;>
    exact absurd hc (by decide)

theorem isSpace_of_starts {c : Char} (hc : c = '-' ∨ Text.isDigit c = true) : isSpace c = false := by
  simp only [isSpace, Bool.or_eq_false_iff, beq_eq_false_iff_ne]
  exact ⟨⟨⟨ne_of_starts hc (by decide), ne_of_starts hc (by decide)⟩, ne_of_starts hc (by decide)⟩,
    ne_of_starts hc (by decide)⟩

/-- What starts like a number is read as one. -/
theorem readNode_number {c : Char} (hc : c = '-' ∨ Text.isDigit c = true) (fuel : Nat)
    (cs : List Char) :
    readNode (fuel + 1) (c :: cs) = (readNumeral (c :: cs)).map fun r => (.number r.1, r.2) := by
  unfold readNode
  rw [skipSpace_cons (isSpace_of_starts hc)]
  split
  · next heq => exact absurd (List.cons.inj heq).1 (ne_of_starts hc (by decide))
  · next heq => exact absurd (List.cons.inj heq).1 (ne_of_starts hc (by decide))
  · next heq => exact absurd (List.cons.inj heq).1 (ne_of_starts hc (by decide))
  · next heq => exact absurd (List.cons.inj heq).1 (ne_of_starts hc (by decide))
  · next heq => exact absurd (List.cons.inj heq).1 (ne_of_starts hc (by decide))
  · next heq => exact absurd (List.cons.inj heq).1 (ne_of_starts hc (by decide))
  · cases readNumeral (c :: cs) <;> rfl

/-- A node starts with neither a blank nor the end of a list. -/
theorem head_compact {j : Json} (hj : j.WellFormed) :
    ∃ c cs, compact j = c :: cs ∧ isSpace c = false ∧ c ≠ ']' := by
  cases j with
  | bool b => cases b <;> exact ⟨_, _, rfl, by decide, by decide⟩
  | number n =>
    obtain ⟨c, cs, hchars, hc⟩ := head_chars (hj n (List.mem_singleton.mpr rfl))
    exact ⟨c, cs, hchars, isSpace_of_starts hc, ne_of_starts hc (by decide)⟩
  | _ => exact ⟨_, _, rfl, by decide, by decide⟩

theorem skipSpace_punctuation {c : Char} (hc : c ∈ [',', ':', ']', '\x7d', '"']) (cs : List Char) :
    skipSpace (c :: cs) = c :: cs := by
  apply skipSpace_cons
  simp only [List.mem_cons, List.not_mem_nil, or_false] at hc
  rcases hc with rfl | rfl | rfl | rfl | rfl <;> decide

/-- A string reads back. -/
theorem readNode_quote (fuel : Nat) (s : String) (rest : List Char) :
    readNode (fuel + 1) (quote s ++ rest) = some (.string s, rest) := by
  have hread := readString_append s rest
  simp only [quote, List.cons_append, List.append_assoc, List.nil_append] at hread ⊢
  rw [readNode, skipSpace_punctuation (by decide)]
  simp only [hread]
  rfl

/-- The half of a surrogate pair that stands for every ill-formed string. -/
theorem readNode_illFormed (fuel : Nat) (rest : List Char) :
    readNode (fuel + 1) (illFormedText ++ rest) = some (.illFormed, rest) := by
  have hescape : readEscape ('u' :: 'd' :: '8' :: '0' :: '0' :: '"' :: rest) =
      some (none, '"' :: rest) := rfl
  have hread : readString ('\\' :: 'u' :: 'd' :: '8' :: '0' :: '0' :: '"' :: rest) =
      some (none, rest) := by
    simp only [readString, List.length_cons, readChars, hescape, Option.bind_eq_bind,
      Option.bind_some]
    rfl
  simp only [illFormedText, List.cons_append, List.nil_append]
  rw [readNode, skipSpace_punctuation (by decide)]
  simp only [hread]
  rfl

theorem readNode_array {fuel : Nat} {items : List Json} {c : Char} {cs rest : List Char}
    (hspace : isSpace c = false) (hc : c ≠ ']')
    (hread : readItems fuel (c :: cs) = some (items, rest)) :
    readNode (fuel + 1) ('[' :: c :: cs) = some (.array items, rest) := by
  unfold readNode
  rw [skipSpace_cons (by decide)]
  simp only [skipSpace_cons hspace]
  split
  · next heq => exact absurd (List.cons.inj heq).1 hc
  · rw [hread]
    rfl

theorem readItems_last {fuel : Nat} {j : Json} {cs rest : List Char}
    (hread : readNode fuel cs = some (j, ']' :: rest)) :
    readItems (fuel + 1) cs = some ([j], rest) := by
  simp only [readItems, hread, Option.bind_eq_bind, Option.bind_some,
    skipSpace_punctuation (show ']' ∈ _ by decide)]

theorem readItems_more {fuel : Nat} {j : Json} {items : List Json} {cs cs' rest : List Char}
    (hread : readNode fuel cs = some (j, ',' :: cs')) (hmore : readItems fuel cs' = some (items, rest)) :
    readItems (fuel + 1) cs = some (j :: items, rest) := by
  simp only [readItems, hread, hmore, Option.bind_eq_bind, Option.bind_some,
    skipSpace_punctuation (show ',' ∈ _ by decide)]

theorem readMembers_last {fuel : Nat} {k : String} {j : Json} {cs rest : List Char}
    (hread : readNode fuel cs = some (j, '\x7d' :: rest)) :
    readMembers (fuel + 1) (quote k ++ ':' :: cs) = some ([(some k, j)], rest) := by
  have hkey := readString_append k (':' :: cs)
  simp only [quote, List.cons_append, List.append_assoc, List.nil_append] at hkey ⊢
  rw [readMembers, skipSpace_punctuation (by decide)]
  simp only [hkey, hread, Option.bind_eq_bind, Option.bind_some,
    skipSpace_punctuation (show ':' ∈ _ by decide), skipSpace_punctuation (show '\x7d' ∈ _ by decide)]

theorem readMembers_more {fuel : Nat} {k : String} {j : Json} {members : List (Option String × Json)}
    {cs cs' rest : List Char} (hread : readNode fuel cs = some (j, ',' :: cs'))
    (hmore : readMembers fuel cs' = some (members, rest)) :
    readMembers (fuel + 1) (quote k ++ ':' :: cs) = some ((some k, j) :: members, rest) := by
  have hkey := readString_append k (':' :: cs)
  simp only [quote, List.cons_append, List.append_assoc, List.nil_append] at hkey ⊢
  rw [readMembers, skipSpace_punctuation (by decide)]
  simp only [hkey, hread, hmore, Option.bind_eq_bind, Option.bind_some,
    skipSpace_punctuation (show ':' ∈ _ by decide), skipSpace_punctuation (show ',' ∈ _ by decide)]

theorem wholeMembers?_map_some (members : List (String × Json)) :
    wholeMembers? (members.map fun m => (some m.1, m.2)) = some members := by
  induction members with
  | nil => rfl
  | cons m members ih => simp [wholeMembers?, ih]

theorem readNode_object {fuel : Nat} {members : List (String × Json)} {cs rest : List Char}
    (hread : readMembers fuel ('"' :: cs) = some (members.map fun m => (some m.1, m.2), rest)) :
    readNode (fuel + 1) ('\x7b' :: '"' :: cs) = some (.object members, rest) := by
  rw [readNode, skipSpace_cons (by decide)]
  simp only [skipSpace_punctuation (show '"' ∈ _ by decide)]
  split
  · next heq => exact absurd (List.cons.inj heq).1 (by decide)
  · rw [hread, Option.bind_eq_bind, Option.bind_some, wholeMembers?_map_some]
    rfl

theorem compactItems_cons (j j' : Json) (items : List Json) :
    compactItems (j :: j' :: items) = compact j ++ ',' :: compactItems (j' :: items) := rfl

theorem compactMembers_cons (k : String) (j : Json) (m : String × Json)
    (members : List (String × Json)) :
    compactMembers ((k, j) :: m :: members) =
      quote k ++ ':' :: (compact j ++ ',' :: compactMembers (m :: members)) := rfl

/-- The items of an array start like the first of them. -/
theorem head_compactItems {j : Json} (hj : j.WellFormed) (items : List Json) :
    ∃ c cs, compactItems (j :: items) = c :: cs ∧ isSpace c = false ∧ c ≠ ']' := by
  obtain ⟨c, cs, hcompact, hc⟩ := head_compact hj
  cases items with
  | nil => exact ⟨c, cs, hcompact, hc⟩
  | cons j' items => exact ⟨c, _, by rw [compactItems_cons, hcompact, List.cons_append], hc⟩

theorem head_compactMembers (m : String × Json) (members : List (String × Json)) :
    ∃ cs, compactMembers (m :: members) = '"' :: cs := by
  obtain ⟨k, j⟩ := m
  cases members <;> exact ⟨_, rfl⟩

mutual

/-- A node reads back, with what follows it left over. -/
theorem readNode_compact : ∀ (j : Json) {fuel : Nat} {rest : List Char},
    j.WellFormed → (compact j).length < fuel → Apart rest →
      readNode fuel (compact j ++ rest) = some (j, rest)
  | j, 0, _, _, hfuel, _ => absurd hfuel (Nat.not_lt_zero _)
  | .null, fuel + 1, rest, _, _, _ => by
    simp only [compact, List.cons_append, List.nil_append]
    rw [readNode, skipSpace_cons (by decide)]
    rfl
  | .bool true, fuel + 1, rest, _, _, _ => by
    simp only [compact, List.cons_append, List.nil_append]
    rw [readNode, skipSpace_cons (by decide)]
    rfl
  | .bool false, fuel + 1, rest, _, _, _ => by
    simp only [compact, List.cons_append, List.nil_append]
    rw [readNode, skipSpace_cons (by decide)]
    rfl
  | .number n, fuel + 1, rest, hj, _, hrest => by
    have hn := hj n (List.mem_singleton.mpr rfl)
    have hread := readNumeral_chars hn hrest
    obtain ⟨c, cs, hchars, hc⟩ := head_chars hn
    rw [hchars, List.cons_append] at hread
    rw [compact, hchars, List.cons_append, readNode_number hc, hread]
    rfl
  | .string s, fuel + 1, rest, _, _, _ => readNode_quote fuel s rest
  | .illFormed, fuel + 1, rest, _, _, _ => readNode_illFormed fuel rest
  | .array [], fuel + 1, rest, _, _, _ => by
    simp only [compact, compactItems, List.cons_append, List.nil_append]
    rw [readNode, skipSpace_cons (by decide)]
    simp only [skipSpace_punctuation (show ']' ∈ _ by decide)]
  | .array (j :: items), fuel + 1, rest, hj, hfuel, _ => by
    rw [compact, List.length_cons, List.length_append, List.length_singleton] at hfuel
    have hread : readItems fuel (compactItems (j :: items) ++ ']' :: rest) = some (j :: items, rest) :=
      readItems_compact (j :: items) hj (List.cons_ne_nil _ _) (by omega)
    have hhead : j.WellFormed := fun n hn => hj n (List.mem_append_left _ hn)
    obtain ⟨c, cs, hcompact, hspace, hc⟩ := head_compactItems hhead items
    rw [hcompact, List.cons_append] at hread
    rw [compact, hcompact, List.cons_append, List.append_assoc]
    exact readNode_array hspace hc hread
  | .object [], fuel + 1, rest, _, _, _ => by
    simp only [compact, compactMembers, List.cons_append, List.nil_append]
    rw [readNode, skipSpace_cons (by decide)]
    simp only [skipSpace_punctuation (show '\x7d' ∈ _ by decide)]
  | .object (m :: members), fuel + 1, rest, hj, hfuel, _ => by
    rw [compact, List.length_cons, List.length_append, List.length_singleton] at hfuel
    have hread : readMembers fuel (compactMembers (m :: members) ++ '\x7d' :: rest) =
        some ((m :: members).map fun m => (some m.1, m.2), rest) :=
      readMembers_compact (m :: members) hj (List.cons_ne_nil _ _) (by omega)
    obtain ⟨cs, hcompact⟩ := head_compactMembers m members
    rw [hcompact, List.cons_append] at hread
    rw [compact, hcompact, List.cons_append, List.append_assoc]
    exact readNode_object hread

/-- The items of an array that is not empty read back, with its end. -/
theorem readItems_compact : ∀ (items : List Json) {fuel : Nat} {rest : List Char},
    (∀ n ∈ numeralsItems items, n.WellFormed) → items ≠ [] →
      (compactItems items).length + 1 < fuel →
      readItems fuel (compactItems items ++ ']' :: rest) = some (items, rest)
  | items, 0, _, _, _, hfuel => absurd hfuel (Nat.not_lt_zero _)
  | [], _, _, _, hne, _ => absurd rfl hne
  | [j], fuel + 1, rest, hitems, _, hfuel => by
    have hj : j.WellFormed := fun n hn => hitems n (List.mem_append_left _ hn)
    rw [compactItems] at hfuel ⊢
    exact readItems_last (readNode_compact j hj (by omega) (apart_cons (by decide) rest))
  | j :: j' :: items, fuel + 1, rest, hitems, _, hfuel => by
    have hj : j.WellFormed := fun n hn => hitems n (List.mem_append_left _ hn)
    rw [compactItems_cons, List.length_append, List.length_cons] at hfuel
    have hmore : readItems fuel (compactItems (j' :: items) ++ ']' :: rest) = some (j' :: items, rest) :=
      readItems_compact (j' :: items) (fun n hn => hitems n (List.mem_append_right _ hn))
        (List.cons_ne_nil _ _) (by omega)
    rw [compactItems_cons, List.append_assoc, List.cons_append]
    exact readItems_more (readNode_compact j hj (by omega) (apart_cons (by decide) _)) hmore

/-- The members of an object that is not empty read back, with its end. -/
theorem readMembers_compact : ∀ (members : List (String × Json)) {fuel : Nat} {rest : List Char},
    (∀ n ∈ numeralsMembers members, n.WellFormed) → members ≠ [] →
      (compactMembers members).length + 1 < fuel →
      readMembers fuel (compactMembers members ++ '\x7d' :: rest) =
        some (members.map fun m => (some m.1, m.2), rest)
  | members, 0, _, _, _, hfuel => absurd hfuel (Nat.not_lt_zero _)
  | [], _, _, _, hne, _ => absurd rfl hne
  | [(k, j)], fuel + 1, rest, hmembers, _, hfuel => by
    have hj : j.WellFormed := fun n hn => hmembers n (List.mem_append_left _ hn)
    rw [compactMembers, List.length_append, List.length_cons] at hfuel
    rw [compactMembers, List.append_assoc, List.cons_append]
    exact readMembers_last (readNode_compact j hj (by omega) (apart_cons (by decide) rest))
  | (k, j) :: m :: members, fuel + 1, rest, hmembers, _, hfuel => by
    have hj : j.WellFormed := fun n hn => hmembers n (List.mem_append_left _ hn)
    rw [compactMembers_cons, List.length_append, List.length_cons, List.length_append,
      List.length_cons] at hfuel
    have hmore : readMembers fuel (compactMembers (m :: members) ++ '\x7d' :: rest) =
        some ((m :: members).map fun m => (some m.1, m.2), rest) :=
      readMembers_compact (m :: members) (fun n hn => hmembers n (List.mem_append_right _ hn))
        (List.cons_ne_nil _ _) (by omega)
    rw [compactMembers_cons, List.append_assoc, List.cons_append, List.append_assoc, List.cons_append]
    exact readMembers_more (readNode_compact j hj (by omega) (apart_cons (by decide) _)) hmore

end

/-- The compact text of a document reads as the document. -/
theorem read_text {j : Json} (hj : j.WellFormed) : read j.text = some j := by
  have hfuel : (compact j).length < j.text.length + 1 := by
    rw [text, String.length_ofList]
    exact Nat.lt_succ_self _
  have hnode := readNode_compact j hj hfuel apart_nil
  rw [List.append_nil] at hnode
  rw [read]
  rw [show j.text.toList = compact j from String.toList_ofList, hnode]
  rfl

end Json
end ScriptBridge
