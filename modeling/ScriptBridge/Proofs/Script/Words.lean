/-
  ScriptBridge/Proofs/Script/Words.lean
  =====================================
  **Scripts that are a single word.**

  A word and a semicolon are two tokens, whatever the word, as long as it has a
  letter and no digit before its first letter.  What they are parsed as depends
  on the word alone.  A word that is free is a variable; of the words that are
  kept for the language, four make a whole statement, and all others are refused.

  A parser is followed through these two tokens rule by rule, from the innermost
  rule outwards, and no rule needs more than one step.
-/
import ScriptBridge.Proofs.Data.Sorted
import ScriptBridge.Script.Run
import Mathlib.Data.List.TakeDrop

namespace ScriptBridge

/-! ### Tokens -/

/-- The text is an identifier: a letter or an underscore, then letters, digits and underscores. -/
def Vocabulary.Spelled (name : String) : Prop :=
  ∃ c cs, name.toList = c :: cs ∧ isWordStart c = true ∧ ∀ d ∈ cs, isWordPart d = true

namespace Vocabulary

theorem toNat_of_isWordStart {c : Char} (h : isWordStart c = true) :
    (97 ≤ c.toNat ∧ c.toNat ≤ 122) ∨ (65 ≤ c.toNat ∧ c.toNat ≤ 90) ∨ c.toNat = 95 := by
  simp only [isWordStart, Text.isLetter, Bool.or_eq_true, Bool.and_eq_true, decide_eq_true_eq,
    beq_iff_eq] at h
  rcases h with (h | h) | rfl
  · exact Or.inl h
  · exact Or.inr (Or.inl h)
  · exact Or.inr (Or.inr rfl)

theorem isBlankChar_of_isWordStart {c : Char} (h : isWordStart c = true) :
    Text.isBlankChar c = false := by
  have hc := toNat_of_isWordStart h
  simp only [Text.isBlankChar, Text.blankRanges, List.any_cons, List.any_nil, Bool.or_false,
    Bool.or_eq_false_iff, Bool.and_eq_false_iff, decide_eq_false_iff_not]
  omega

theorem isDigit_of_isWordStart {c : Char} (h : isWordStart c = true) : Text.isDigit c = false := by
  have hc := toNat_of_isWordStart h
  have hdigit : Text.isDigit c = true ↔ 48 ≤ c.toNat ∧ c.toNat ≤ 57 := by
    simp only [Text.isDigit, Bool.and_eq_true, decide_eq_true_eq]
    rfl
  rw [← Bool.not_eq_true, hdigit]
  omega

theorem slash_ne_of_isWordStart {c : Char} (h : isWordStart c = true) : c ≠ '/' := by
  rintro rfl
  exact absurd h (by decide)

theorem isWordPart_of_isWordStart {c : Char} (h : isWordStart c = true) : isWordPart c = true := by
  simp only [isWordStart, isWordPart, Bool.or_eq_true] at h ⊢
  rcases h with h | h
  · exact Or.inl (Or.inl h)
  · exact Or.inr h

theorem Spelled.all {name : String} (h : Spelled name) : ∀ c ∈ name.toList, isWordPart c = true := by
  obtain ⟨c, cs, hname, hc, hcs⟩ := h
  rw [hname]
  intro d hd
  rcases List.mem_cons.mp hd with rfl | hd
  · exact isWordPart_of_isWordStart hc
  · exact hcs d hd

theorem Spelled.span {name : String} (h : Spelled name) :
    (name.toList ++ [';']).span isWordPart = (name.toList, [';']) := by
  rw [List.span_eq_takeWhile_dropWhile, List.takeWhile_append_of_pos h.all,
    List.dropWhile_append_of_pos h.all]
  have hsign : isWordPart ';' = false := by decide
  simp [hsign]

end Vocabulary

namespace Token

theorem readAll_semicolon (fuel : Nat) (after : Bool) :
    readAll (fuel + 2) after [';'] = some [.symbol ";"] := rfl

theorem skipBlank_of_isWordStart {c : Char} (h : Vocabulary.isWordStart c = true) (fuel : Nat)
    (cs : List Char) : skipBlank (fuel + 1) (c :: cs) = c :: cs := by
  have hslash := Vocabulary.slash_ne_of_isWordStart h
  rw [skipBlank]
  · simp [Vocabulary.isBlankChar_of_isWordStart h]
  · intro rest hc
    exact absurd hc hslash

theorem readToken_word {name : String} (h : Vocabulary.Spelled name) (after : Bool) :
    readToken after (name.toList ++ [';']) =
      if Vocabulary.isName name.toList then some (.word name, [';']) else none := by
  have hspan := h.span
  obtain ⟨c, cs, hname, hc, -⟩ := h
  have hofList : String.ofList (c :: cs) = name := by rw [← hname, String.ofList_toList]
  rw [hname] at hspan ⊢
  simp only [List.cons_append] at hspan ⊢
  simp only [readToken, Vocabulary.isDigit_of_isWordStart hc, hc, hspan, hofList, Bool.false_eq_true,
    if_false, if_true]

/-- An identifier before a semicolon is a word, unless a digit comes before its first letter or it has
    no letter: then the text has no tokens at all. -/
theorem ofText_word {name : String} (h : Vocabulary.Spelled name) :
    ofText (name ++ ";") =
      if Vocabulary.isName name.toList then some [.word name, .symbol ";"] else none := by
  have htoken := readToken_word h false
  obtain ⟨c, cs, hname, hc, -⟩ := h
  have hlength : (name ++ ";").length = cs.length + 2 := by
    rw [← String.length_toList, String.toList_append, hname]
    simp
  have hcs : (name ++ ";").toList = c :: (cs ++ [';']) := by simp [hname]
  rw [hname] at htoken
  rw [ofText, hlength, hcs, readAll, skipBlank_of_isWordStart hc]
  simp only [List.cons_append, hname] at htoken ⊢
  rw [htoken]
  by_cases hletter : Vocabulary.isName (c :: cs) = true
  · simp [hletter, readAll_semicolon]
  · simp [hletter]

end Token

/-! ### The statement of a word -/

/-- What a word alone means with the given variables from outside: a variable of that name when the
    word is free, and the whole statement that it makes otherwise, if it makes one. -/
def Stmt.ofWord? (outer : List String) (word : String) : Option Stmt :=
  if Vocabulary.isFree word then if outer.contains word then some (.expr (.variable word)) else none
  else if word = "true" then some (.expr (.literal (.bool true)))
  else if word = "false" then some (.expr (.literal (.bool false)))
  else if word = "throw" then some (.raise (.literal .unit))
  else if word = "return" then some (.giveBack (.literal .unit))
  else none

namespace Parse

/-- The words that a rule of statements or operands begins with. -/
def openingWords : List String :=
  ["if", "while", "for", "try", "let", "throw", "return", "true", "false", "fn"]

variable {functions : List Function} {names : List String} {w : String}

theorem run_bind {α β : Type} (p : Parse α) (f : α → Parse β) (st : ParseState) :
    (p >>= f).run st = (p.run st).bind fun r => (f r.1).run r.2 := StateT.run_bind p f st

theorem run_pure {α : Type} (a : α) (st : ParseState) : (pure a : Parse α).run st = some (a, st) := rfl

/-! No sign begins with a word, and a word other than the one asked for is left alone. -/

theorem run_accept_word (sign : String) (rest : List Token) :
    (accept sign).run ⟨.word w :: rest, functions, names⟩ =
      some (false, ⟨.word w :: rest, functions, names⟩) := rfl

theorem run_acceptWord_of_ne {word : String} (h : w ≠ word) (rest : List Token) :
    (acceptWord word).run ⟨.word w :: rest, functions, names⟩ =
      some (false, ⟨.word w :: rest, functions, names⟩) := by
  unfold acceptWord
  rw [run_bind]
  change (if w = word then _ else _ : Parse Bool).run _ = _
  rw [if_neg h]
  rfl

theorem run_accept_bind {α : Type} (sign : String) (f : Bool → Parse α) (rest : List Token) :
    (accept sign >>= f).run ⟨.word w :: rest, functions, names⟩ =
      (f false).run ⟨.word w :: rest, functions, names⟩ := by
  rw [run_bind, run_accept_word, Option.bind_some]

theorem run_acceptWord_bind {α : Type} {word : String} (h : w ≠ word) (f : Bool → Parse α)
    (rest : List Token) :
    (acceptWord word >>= f).run ⟨.word w :: rest, functions, names⟩ =
      (f false).run ⟨.word w :: rest, functions, names⟩ := by
  rw [run_bind, run_acceptWord_of_ne h, Option.bind_some]

/-! No bracket opens and no assignment begins at a semicolon. -/

theorem run_acceptOpening_semicolon :
    acceptOpening.run ⟨[.symbol ";"], functions, names⟩ =
      some (none, ⟨[.symbol ";"], functions, names⟩) := rfl

theorem run_nextAssignment_semicolon :
    nextAssignment.run ⟨[.symbol ";"], functions, names⟩ =
      some (none, ⟨[.symbol ";"], functions, names⟩) := rfl

/-! ### From the operand outwards -/

variable {outer : List String} {level limit : Nat}

theorem run_require (c : Bool) (st : ParseState) :
    (require c).run st = if c then some ((), st) else none := by
  cases c <;> rfl

theorem run_nameAt (level limit : Nat) (tokens : List Token) :
    (nameAt ⟨[], outer, level, limit⟩ w).run ⟨tokens, [], []⟩ =
      if outer.contains w then some (.variable w, ⟨tokens, [], []⟩) else none := by
  unfold nameAt
  rw [if_neg (by simp)]
  change (if (outer.contains w || false) = true then _ else _ : Parse Expr).run _ = _
  rw [Bool.or_false]
  split <;> rfl

theorem run_parsePrimary_word (fuel : Nat) (hw : w ∉ openingWords) :
    (parsePrimary (fuel + 1) ⟨[], outer, level, limit⟩).run ⟨[.word w, .symbol ";"], [], []⟩ =
      if Vocabulary.isFree w && outer.contains w then
        some (.variable w, ⟨[.symbol ";"], [], []⟩)
      else none := by
  simp only [openingWords, List.mem_cons, List.not_mem_nil, or_false, not_or] at hw
  have hadvance : advance.run ⟨[.word w, .symbol ";"], [], []⟩ =
      some (.word w, ⟨[.symbol ";"], [], []⟩) := rfl
  rw [parsePrimary]
  simp only [run_bind, hadvance, Option.bind_some, hw, if_false, run_require]
  by_cases hfree : Vocabulary.isFree w = true
  · simp only [hfree, Bool.true_or, if_true, Option.bind_some, run_acceptOpening_semicolon, run_bind,
      run_require, run_nameAt, Bool.true_and]
  · by_cases hcall : Vocabulary.callableWords.contains w = true
    · simp only [hfree, hcall, Bool.or_true, if_true, Option.bind_some, run_acceptOpening_semicolon,
        run_bind, run_require, Bool.false_and, Bool.false_eq_true, if_false, Option.bind_none]
    · simp only [hfree, hcall, Bool.or_false, Bool.false_eq_true, if_false, Option.bind_none,
        Bool.false_and]

theorem run_parseUnary_word (fuel : Nat) (hw : w ∉ openingWords) :
    (parseUnary (fuel + 2) ⟨[], outer, level, limit⟩).run ⟨[.word w, .symbol ";"], [], []⟩ =
      if Vocabulary.isFree w && outer.contains w then
        some (.variable w, ⟨[.symbol ";"], [], []⟩)
      else none := by
  rw [parseUnary]
  simp only [run_bind, run_accept_word, Option.bind_some, Bool.false_eq_true, if_false,
    run_parsePrimary_word fuel hw]
  split
  · rfl
  · rfl

theorem run_parseExpr_word (outer : List String) (level limit fuel : Nat) (hw : w ∉ openingWords) :
    (parseExpr (fuel + 3) ⟨[], outer, level, limit⟩).run ⟨[.word w, .symbol ";"], [], []⟩ =
      if Vocabulary.isFree w && outer.contains w then
        some (.variable w, ⟨[.symbol ";"], [], []⟩)
      else none := by
  rw [parseExpr, run_bind, run_parseUnary_word fuel hw]
  split
  · rfl
  · rfl

/-- The words that need more after them than a semicolon. -/
theorem run_parseStmt_unfinished (fuel : Nat) (hw : w ∈ ["if", "while", "for", "try", "let"]) :
    (parseStmt (fuel + 8) ⟨[], outer, 0, Site.scriptLimit⟩).run ⟨[.word w, .symbol ";"], [], []⟩ = none := by
  simp only [List.mem_cons, List.not_mem_nil, or_false] at hw
  rcases hw with rfl | rfl | rfl | rfl | rfl <;> rfl

theorem ofWord?_unfinished (hw : w ∈ ["if", "while", "for", "try", "let"]) :
    Stmt.ofWord? outer w = none := by
  simp only [List.mem_cons, List.not_mem_nil, or_false] at hw
  rcases hw with rfl | rfl | rfl | rfl | rfl <;> rfl

/-- The statement of a word that begins a rule. -/
theorem run_parseStmt_opening (fuel : Nat) (hw : w ∈ openingWords) (hfn : w ≠ "fn") :
    (parseStmt (fuel + 8) ⟨[], outer, 0, Site.scriptLimit⟩).run ⟨[.word w, .symbol ";"], [], []⟩ =
      (Stmt.ofWord? outer w).map fun s => (⟨s, false, []⟩, ⟨[.symbol ";"], [], []⟩) := by
  by_cases hunfinished : w ∈ ["if", "while", "for", "try", "let"]
  · rw [run_parseStmt_unfinished fuel hunfinished, ofWord?_unfinished hunfinished]
    rfl
  · have hcomplete : w = "throw" ∨ w = "return" ∨ w = "true" ∨ w = "false" := by
      simp only [openingWords, List.mem_cons, List.not_mem_nil, or_false] at hw hunfinished
      tauto
    rcases hcomplete with rfl | rfl | rfl | rfl
    · have hraise : Stmt.ofWord? outer "throw" = some (.raise (.literal .unit)) := rfl
      rw [hraise]
      rfl
    · have hreturn : Stmt.ofWord? outer "return" = some (.giveBack (.literal .unit)) := rfl
      rw [hreturn]
      rfl
    · have htrue : Stmt.ofWord? outer "true" = some (.expr (.literal (.bool true))) := rfl
      rw [htrue]
      rfl
    · have hfalse : Stmt.ofWord? outer "false" = some (.expr (.literal (.bool false))) := rfl
      rw [hfalse]
      rfl

theorem ofWord?_of_not_opening (hw : w ∉ openingWords) :
    Stmt.ofWord? outer w =
      if Vocabulary.isFree w && outer.contains w then some (.expr (.variable w)) else none := by
  simp only [openingWords, List.mem_cons, List.not_mem_nil, or_false, not_or] at hw
  simp only [Stmt.ofWord?, hw, if_false, Bool.and_eq_true, ite_and]

theorem run_parseStmt_word (fuel : Nat) (hw : w ≠ "fn") :
    (parseStmt (fuel + 8) ⟨[], outer, 0, Site.scriptLimit⟩).run ⟨[.word w, .symbol ";"], [], []⟩ =
      (Stmt.ofWord? outer w).map fun s => (⟨s, false, []⟩, ⟨[.symbol ";"], [], []⟩) := by
  by_cases hopening : w ∈ openingWords
  · exact run_parseStmt_opening fuel hopening hw
  · have hexpr := run_parseExpr_word outer 2 Site.scriptLimit (fuel + 4) hopening
    have hdeeper : (deeper 2 ⟨[], outer, 0, Site.scriptLimit⟩).run ⟨[.word w, .symbol ";"], [], []⟩ =
        some (⟨[], outer, 2, Site.scriptLimit⟩, ⟨[.word w, .symbol ";"], [], []⟩) := rfl
    rw [ofWord?_of_not_opening hopening]
    simp only [openingWords, List.mem_cons, List.not_mem_nil, or_false, not_or] at hopening
    obtain ⟨hif, hwhile, hfor, htry, hlet, hthrow, hreturn, -⟩ := hopening
    rw [parseStmt, run_accept_bind, if_neg Bool.false_ne_true, run_acceptWord_bind hif,
      if_neg Bool.false_ne_true, run_acceptWord_bind hwhile, if_neg Bool.false_ne_true,
      run_acceptWord_bind hfor, if_neg Bool.false_ne_true, run_acceptWord_bind htry,
      if_neg Bool.false_ne_true, run_acceptWord_bind hlet, if_neg Bool.false_ne_true,
      run_acceptWord_bind hthrow, if_neg Bool.false_ne_true, run_acceptWord_bind hreturn,
      if_neg Bool.false_ne_true, run_bind, hdeeper, Option.bind_some, run_bind, hexpr]
    by_cases hfree : (Vocabulary.isFree w && outer.contains w) = true
    · simp only [hfree, if_true, Option.bind_some, run_bind, run_nextAssignment_semicolon, run_pure,
        Option.map_some]
    · simp only [hfree, if_false, Option.bind_none, Option.map_none, Bool.false_eq_true]

theorem run_parseScript_word (outer : List String) (w : String) (fuel : Nat) :
    (parseScript (fuel + 9) ⟨[], outer, 0, Site.scriptLimit⟩).run ⟨[.word w, .symbol ";"], [], []⟩ =
      (Stmt.ofWord? outer w).map fun s => ([s], ⟨[], [], []⟩) := by
  by_cases hw : w = "fn"
  · subst hw
    have hnone : Stmt.ofWord? outer "fn" = none := rfl
    rw [hnone]
    rfl
  · have hpeek : peek.run ⟨[.word w, .symbol ";"], [], []⟩ =
        some (some (.word w), ⟨[.word w, .symbol ";"], [], []⟩) := rfl
    rw [parseScript]
    simp only [run_bind, hpeek, Option.bind_some, run_accept_word, Bool.false_eq_true, if_false,
      run_acceptWord_of_ne hw, run_parseStmt_word fuel hw]
    cases Stmt.ofWord? outer w with
    | none => rfl
    | some statement => rfl

end Parse

/-- The script of an identifier and a semicolon. -/
theorem Source.ofText_word {name : String} (h : Vocabulary.Spelled name) (scope : List String) :
    Source.ofText scope (name ++ ";") =
      if Vocabulary.isName name.toList then (Stmt.ofWord? scope name).map fun s => ⟨[], [s]⟩
      else none := by
  rw [Source.ofText, Token.ofText_word h]
  by_cases hname : Vocabulary.isName name.toList = true
  · have hparse := Parse.run_parseScript_word scope name 39
    have hnames : Source.functionNames [.word name, .symbol ";"] = [] := by
      simp [Source.functionNames]
    rw [if_pos hname]
    change ((Parse.parseScript (39 + 9) _).run ⟨_, _, Source.functionNames _⟩).bind _ = _
    rw [hnames, hparse, if_pos hname]
    cases Stmt.ofWord? scope name with
    | none => rfl
    | some statement => rfl
  · simp only [hname, if_false, Bool.false_eq_true]
    rfl

/-! ### Running a word -/

namespace Source

/-- How the statements of a script end: with a value, or with a signal. -/
def ending (source : Source) (natives : Natives) (scope : Scope) :
    Interaction ScriptRequest ScriptRequest.Reply (Except Signal Data) := do
  let (result, _) ←
    (Eval.stmts Eval.maxSteps ⟨natives, source.functions, 0⟩ source.body).run.run scope.reverse
  return result

/-- A script completes when it ends with a value or a return. -/
def completes : Except Signal Data → Bool
  | .ok _ => true
  | .error (.returned _) => true
  | .error _ => false

theorem run_of_ending {source : Source} {natives : Natives} {scope : Scope}
    {result : Except Signal Data} (h : source.ending natives scope = .done result) :
    source.run natives scope = .done (completes result) := by
  unfold ending at h
  unfold run
  revert h
  generalize (Eval.stmts Eval.maxSteps ⟨natives, source.functions, 0⟩ source.body).run.run
    scope.reverse = x
  cases x with
  | ask r next =>
    intro h
    cases h
  | done outcome =>
    obtain ⟨end_, vars⟩ := outcome
    intro h
    obtain rfl : end_ = result := Interaction.done.inj h
    rcases end_ with (_ | _ | _ | _) | _ <;> rfl

end Source

namespace Source

/-- There are steps enough for a statement, its expression and a variable in it. -/
theorem exists_maxSteps : ∃ fuel, Eval.maxSteps = fuel + 3 := ⟨Nat.pow 2 40 - 3, rfl⟩

variable (natives : Natives) (scope : Scope)

/-- Simplifying leaves a variable alone, and the variable of a name is the last one of that name. -/
theorem ending_variable {x : String} {d : Data} (h : Assoc.last? x scope = some d) :
    (simplify ⟨[], [.expr (.variable x)]⟩).ending natives scope = .done (.ok d) := by
  have hfind : Assoc.find? x scope.reverse = some d := h
  have hread : (Eval.readVariable x).run.run scope.reverse = .done (.ok d, scope.reverse) := by
    change (Eval.orFault (Assoc.find? x scope.reverse)).run.run scope.reverse = _
    rw [hfind]
    rfl
  obtain ⟨fuel, hfuel⟩ := exists_maxSteps
  change ending ⟨[], [.expr (.variable x)]⟩ natives scope = _
  rw [ending, hfuel]
  simp only [Eval.stmts, Eval.stmt, Eval.expr]
  rw [hread]
  rfl

theorem ending_literal (d : Data) :
    (simplify ⟨[], [.expr (.literal d)]⟩).ending natives scope = .done (.ok d) := by
  obtain ⟨fuel, hfuel⟩ := exists_maxSteps
  change ending ⟨[], [.expr (.literal d)]⟩ natives scope = _
  rw [ending, hfuel]
  rfl

theorem ending_raise :
    (simplify ⟨[], [.raise (.literal .unit)]⟩).ending natives scope =
      .done (.error (.thrown .unit false)) := by
  obtain ⟨fuel, hfuel⟩ := exists_maxSteps
  change ending ⟨[], [.raise (.literal .unit)]⟩ natives scope = _
  rw [ending, hfuel]
  rfl

theorem ending_giveBack :
    (simplify ⟨[], [.giveBack (.literal .unit)]⟩).ending natives scope =
      .done (.error (.returned .unit)) := by
  obtain ⟨fuel, hfuel⟩ := exists_maxSteps
  change ending ⟨[], [.giveBack (.literal .unit)]⟩ natives scope = _
  rw [ending, hfuel]
  rfl

end Source

/-- The script that is the name alone ends with the value, and asks nothing before. -/
def Denotes (scope : Scope) (name : String) (d : Data) : Prop :=
  ∃ source, Source.ofText (scope.map Prod.fst) (name ++ ";") = some source ∧
    ∀ natives, source.simplify.ending natives scope = .done (.ok d)

/-- Whether the script that is the name alone completes; `none` when it is no script. -/
def Vocabulary.standing? (name : String) : Option Bool :=
  if isFunctionName name then some true
  else if name ∈ ["true", "false", "return"] then some true
  else if name = "throw" then some false
  else none

section
variable {name : String} {scope : Scope}

theorem contains_map_fst_of_last? {d : Data} (h : Assoc.last? name scope = some d) :
    (scope.map Prod.fst).contains name = true := by
  have hmem : (name, d) ∈ scope := List.mem_reverse.mp (Assoc.mem_of_find? h)
  exact List.contains_iff_mem.mpr (List.mem_map.mpr ⟨_, hmem, rfl⟩)

theorem Source.ofText_free (hspelled : Vocabulary.Spelled name)
    (hname : Vocabulary.isFunctionName name = true) {d : Data} (h : Assoc.last? name scope = some d) :
    Source.ofText (scope.map Prod.fst) (name ++ ";") = some ⟨[], [.expr (.variable name)]⟩ := by
  obtain ⟨hletter, hfree⟩ := Bool.and_eq_true_iff.mp hname
  rw [Source.ofText_word hspelled, if_pos hletter, Stmt.ofWord?, if_pos hfree,
    if_pos (contains_map_fst_of_last? h), Option.map_some]

/-- A free name denotes the last variable of the name. -/
theorem denotes_of_free (hspelled : Vocabulary.Spelled name)
    (hname : Vocabulary.isFunctionName name = true) {d : Data} (h : Assoc.last? name scope = some d) :
    Denotes scope name d :=
  ⟨_, Source.ofText_free hspelled hname h, fun natives => Source.ending_variable natives scope h⟩

/-- The scripts that are a word of the language, or nothing that has a name, are parsed as one of four
    or not at all. -/
theorem Source.ofText_kept (hspelled : Vocabulary.Spelled name)
    (hname : Vocabulary.isFunctionName name = false) (outer : List String) :
    (name = "true" ∧ Source.ofText outer (name ++ ";") = some ⟨[], [.expr (.literal (.bool true))]⟩) ∨
    (name = "false" ∧ Source.ofText outer (name ++ ";") = some ⟨[], [.expr (.literal (.bool false))]⟩) ∨
    (name = "throw" ∧ Source.ofText outer (name ++ ";") = some ⟨[], [.raise (.literal .unit)]⟩) ∨
    (name = "return" ∧ Source.ofText outer (name ++ ";") = some ⟨[], [.giveBack (.literal .unit)]⟩) ∨
    (name ∉ ["true", "false", "throw", "return"] ∧ Source.ofText outer (name ++ ";") = none) := by
  rw [Source.ofText_word hspelled]
  by_cases hletter : Vocabulary.isName name.toList = true
  · have hkept : Vocabulary.isFree name = false := by
      simpa [Vocabulary.isFunctionName, hletter] using hname
    rw [if_pos hletter, Stmt.ofWord?, hkept, if_neg Bool.false_ne_true]
    grind
  · rw [if_neg hletter]
    refine Or.inr (Or.inr (Or.inr (Or.inr ⟨?_, rfl⟩)))
    rintro hmem
    simp only [List.mem_cons, List.not_mem_nil, or_false] at hmem
    rcases hmem with rfl | rfl | rfl | rfl
    all_goals exact hletter (by decide)

/-- A name that is kept for the language, or that no script can hold, denotes no handle. -/
theorem not_denotes_handle (hspelled : Vocabulary.Spelled name)
    (hname : Vocabulary.isFunctionName name = false) (scope : Scope) (h : ObjectHandle) :
    ¬ Denotes scope name (.handle h) := by
  rintro ⟨source, hsource, hending⟩
  have hend := hending ⟨[]⟩
  rcases Source.ofText_kept hspelled hname (scope.map Prod.fst) with
    ⟨-, htext⟩ | ⟨-, htext⟩ | ⟨-, htext⟩ | ⟨-, htext⟩ | ⟨-, htext⟩
  all_goals rw [htext] at hsource; cases hsource
  · rw [Source.ending_literal] at hend
    cases hend
  · rw [Source.ending_literal] at hend
    cases hend
  · rw [Source.ending_raise] at hend
    cases hend
  · rw [Source.ending_giveBack] at hend
    cases hend

/-- The script that is a name in scope. -/
theorem start_word (hspelled : Vocabulary.Spelled name) {d : Data}
    (h : Assoc.last? name scope = some d) (natives : Natives) :
    scriptLanguage.start natives scope (name ++ ";") =
      (Vocabulary.standing? name).map Interaction.done := by
  have hstart : scriptLanguage.start natives scope (name ++ ";") =
      (Source.ofText (scope.map Prod.fst) (name ++ ";")).map fun source =>
        source.simplify.run natives scope := by
    cases htext : Source.ofText (scope.map Prod.fst) (name ++ ";") <;> simp [scriptLanguage, htext]
  rw [hstart, Vocabulary.standing?]
  cases hname : Vocabulary.isFunctionName name with
  | true =>
    rw [Source.ofText_free hspelled hname h, Option.map_some,
      Source.run_of_ending (Source.ending_variable natives scope h)]
    rfl
  | false =>
    rcases Source.ofText_kept hspelled hname (scope.map Prod.fst) with
      ⟨rfl, htext⟩ | ⟨rfl, htext⟩ | ⟨rfl, htext⟩ | ⟨rfl, htext⟩ | ⟨hother, htext⟩
    · rw [htext, Option.map_some, Source.run_of_ending (Source.ending_literal natives scope _)]
      rfl
    · rw [htext, Option.map_some, Source.run_of_ending (Source.ending_literal natives scope _)]
      rfl
    · rw [htext, Option.map_some, Source.run_of_ending (Source.ending_raise natives scope)]
      rfl
    · rw [htext, Option.map_some, Source.run_of_ending (Source.ending_giveBack natives scope)]
      rfl
    · simp only [List.mem_cons, List.not_mem_nil, or_false, not_or] at hother
      simp [htext, hother]

end
end ScriptBridge
