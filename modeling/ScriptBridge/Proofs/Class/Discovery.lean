/-
  ScriptBridge/Proofs/Class/Discovery.lean
  ========================================
  **Discovery of classes ends, and what it finds is closed.**

  A request for the table of an unknown class describes the class, stores its
  table, and then makes the same request for every class that its methods
  return, each time on the registry that the request before left behind.
  `Served` is this nested recursion, as rules without any measure: a derivation
  is finite, so a request that never came back would have none.

  While requests are nested, classes are in the registry whose returned classes
  are not.  What holds at every depth is weaker: all that was described during
  a request has its returned classes in the registry when the request comes
  back (`Served.returns_mem`).  The nesting ends since every description leaves
  fewer classes to describe (`exists_served`), and the registry, which takes the
  first pending class that remains, gives the same answers in the same order
  (`served_iff`).
-/
import ScriptBridge.Proofs.Class.Seen
import Mathlib.Logic.Relation

namespace ScriptBridge

variable {κ : Type}

namespace ClassFamily

/-- Methods of the first class are declared to return the second. -/
def Returns (family : ClassFamily κ) (k c : κ) : Prop := c ∈ (family.describe k).returns

/-- A chain of declarations leads from one of some classes to this one. -/
def Reaches (family : ClassFamily κ) (requested : List κ) (c : κ) : Prop :=
  ∃ k ∈ requested, Relation.ReflTransGen family.Returns k c

variable {family : ClassFamily κ} {remaining : List κ}

/-- What holds of some classes, and of all that those it holds of return, holds of all they reach. -/
theorem Reaches.of_closed {requested : List κ} {c : κ} {P : κ → Prop}
    (h : family.Reaches requested c) (hrequested : ∀ k ∈ requested, P k)
    (hclosed : ∀ k, P k → ∀ c, family.Returns k c → P c) : P c := by
  obtain ⟨k, hk, hchain⟩ := h
  induction hchain with
  | refl => exact hrequested k hk
  | tail _ hreturns ih => exact hclosed _ ih _ hreturns

/-! ### The order of discovery -/

variable [DecidableEq κ]

theorem discover_cons_of_mem {k : κ} (h : k ∈ remaining) (pending : List κ) :
    family.discover remaining (k :: pending) =
      k :: family.discover (without k remaining) ((family.describe k).returns ++ k :: pending) :=
  discover_of_find? (by simp [h])

/-- A pending class that does not remain is passed over. -/
theorem discover_skip {k : κ} (h : k ∉ remaining) (before after : List κ) :
    family.discover remaining (before ++ k :: after) = family.discover remaining (before ++ after) := by
  induction hn : remaining.length using Nat.strongRecOn generalizing remaining before with
  | _ n ih =>
    have hfirst : (before ++ k :: after).find? (fun k => decide (k ∈ remaining)) =
        (before ++ after).find? (fun k => decide (k ∈ remaining)) := by simp [List.find?_append, h]
    cases hfound : (before ++ after).find? (fun k => decide (k ∈ remaining)) with
    | none => rw [discover_of_find?_none hfound, discover_of_find?_none (hfirst.trans hfound)]
    | some c =>
      have hc : c ∈ remaining := by simpa using List.find?_some hfound
      have hk : k ∉ without c remaining := fun hk => h (List.mem_filter.mp hk).1
      have hrest := ih _ (hn ▸ length_without_lt hc) hk ((family.describe c).returns ++ before) rfl
      rw [discover_of_find? hfound, discover_of_find? (hfirst.trans hfound), ← List.append_assoc,
        ← List.append_assoc, hrest]

theorem discover_cons_of_not_mem {k : κ} (h : k ∉ remaining) (pending : List κ) :
    family.discover remaining (k :: pending) = family.discover remaining pending :=
  discover_skip h [] pending

theorem discover_append_of_forall_not_mem {first : List κ} (h : ∀ k ∈ first, k ∉ remaining)
    (second : List κ) :
    family.discover remaining (first ++ second) = family.discover remaining second := by
  induction first with
  | nil => rfl
  | cons k first ih =>
    obtain ⟨hk, hfirst⟩ := List.forall_mem_cons.mp h
    rw [List.cons_append, discover_cons_of_not_mem hk, ih hfirst]

/-- The classes of two lists are discovered one list after the other. -/
theorem discover_append (family : ClassFamily κ) (remaining first second : List κ) :
    family.discover remaining (first ++ second) =
      family.discover remaining first ++
        family.discover (remaining.filter fun c => c ∉ family.discover remaining first) second := by
  fun_induction family.discover remaining first with
  | case1 remaining first hnone =>
    have hgone : ∀ k ∈ first, k ∉ remaining := by simpa using List.find?_eq_none.mp hnone
    have hall : (remaining.filter fun c => c ∉ ([] : List κ)) = remaining := by simp
    rw [discover_append_of_forall_not_mem hgone, hall, List.nil_append]
  | case2 remaining first k hfound ih =>
    have hfound' : (first ++ second).find? (fun k => decide (k ∈ remaining)) = some k := by
      rw [List.find?_append, hfound, Option.some_or]
    rw [discover_of_find? hfound', ← List.append_assoc, ih, List.cons_append]
    congr 3
    rw [without, List.filter_filter]
    refine List.filter_congr fun c _ => ?_
    simp [Bool.and_comm]

end ClassFamily

namespace ClassRegistry

/-- The classes described so far, in the order of description. -/
def classes (r : ClassRegistry κ) : List κ := Assoc.keys r.tables

/-- The registry with the table of one more class. -/
def store (r : ClassRegistry κ) (k : κ) (t : MethodTable) : ClassRegistry κ := ⟨r.tables ++ [(k, t)]⟩

@[simp] theorem classes_store (r : ClassRegistry κ) (k : κ) (t : MethodTable) :
    (r.store k t).classes = r.classes ++ [k] :=
  List.map_append

variable [DecidableEq κ] {family : ClassFamily κ} {r r' : ClassRegistry κ}

/-- The classes that remain to be described. -/
def unseen (r : ClassRegistry κ) (family : ClassFamily κ) : List κ :=
  family.all.filter fun c => (r.find? c).isNone

theorem see_eq (r : ClassRegistry κ) (family : ClassFamily κ) (k : κ) :
    r.see family k =
      ⟨r.tables ++ (family.discover (r.unseen family) [k]).map fun c =>
        (c, (family.describe c).table)⟩ :=
  rfl

/-- The tables of some classes, asked for one after another. -/
def tablesFor (r : ClassRegistry κ) (family : ClassFamily κ) :
    List κ → List MethodTable × ClassRegistry κ
  | [] => ([], r)
  | k :: requested =>
    let (t, r) := r.tableFor family k
    let (ts, r) := r.tablesFor family requested
    (t :: ts, r)

theorem find?_eq_none_iff {k : κ} : r.find? k = none ↔ k ∉ r.classes := by
  rw [ClassRegistry.find?, Assoc.find?_eq_none_iff, classes, Assoc.keys, List.mem_map]
  constructor
  · rintro h ⟨e, he, rfl⟩
    exact h e he rfl
  · intro h e he heq
    exact h ⟨e, he, heq⟩

theorem mem_classes_of_find? {k : κ} {t : MethodTable} (h : r.find? k = some t) : k ∈ r.classes :=
  List.mem_map_of_mem (f := Prod.fst) (Assoc.mem_of_find? h)

theorem mem_unseen_iff {k : κ} : k ∈ r.unseen family ↔ k ∉ r.classes := by
  simp [unseen, family.mem_all k, find?_eq_none_iff]

theorem tableFor_of_find? {k : κ} {t : MethodTable} (h : r.find? k = some t)
    (family : ClassFamily κ) : r.tableFor family k = (t, r) := by
  rw [ClassRegistry.tableFor, h]

theorem Describes.find? (h : r.Describes family) {k : κ} (hk : k ∈ r.classes) :
    r.find? k = some (family.describe k).table := by
  cases hfound : r.find? k with
  | none => exact absurd hk (find?_eq_none_iff.mp hfound)
  | some t => exact congrArg some (h _ (Assoc.mem_of_find? hfound))

theorem Describes.tablesFor (h : r.Describes family) (requested : List κ) :
    (r.tablesFor family requested).2.Describes family := by
  induction requested generalizing r with
  | nil => exact h
  | cons k requested ih => exact ih (h.tableFor k)

theorem Describes.tableFor_fst (h : r.Describes family) (k : κ) :
    (r.tableFor family k).1 = (family.describe k).table := by
  cases hk : r.find? k with
  | none => rw [ClassRegistry.tableFor, hk]
  | some t =>
    rw [tableFor_of_find? hk]
    exact h _ (Assoc.mem_of_find? hk)

theorem Describes.tablesFor_fst (h : r.Describes family) (requested : List κ) :
    (r.tablesFor family requested).1 = requested.map fun k => (family.describe k).table := by
  induction requested generalizing r with
  | nil => rfl
  | cons k requested ih =>
    rw [List.map_cons, ← h.tableFor_fst k, ← ih (h.tableFor k)]
    rfl

/-! ### Nested requests -/

/-- Requests for the tables of some classes, served one after another, come back with these tables;
    in between these classes were described, in this order, and this registry is left behind. -/
inductive Served (family : ClassFamily κ) :
    ClassRegistry κ → List κ → List MethodTable → List κ → ClassRegistry κ → Prop where
  | nothing {r : ClassRegistry κ} : Served family r [] [] [] r
  | known {r r' : ClassRegistry κ} {k : κ} {t : MethodTable} {requested : List κ}
      {tables : List MethodTable} {described : List κ} :
      r.find? k = some t → Served family r requested tables described r' →
      Served family r (k :: requested) (t :: tables) described r'
  /-- The class is described and stored before the classes that it returns are requested. -/
  | unknown {r inside r' : ClassRegistry κ} {k : κ} {requested nested others : List κ}
      {tables unused : List MethodTable} :
      r.find? k = none →
      Served family (r.store k (family.describe k).table) (family.describe k).returns unused nested inside →
      Served family inside requested tables others r' →
      Served family r (k :: requested) ((family.describe k).table :: tables)
        (k :: (nested ++ others)) r'

namespace Served

variable {requested described : List κ} {tables : List MethodTable}

theorem tables_eq (h : Served family r requested tables described r') :
    r'.tables = r.tables ++ described.map fun c => (c, (family.describe c).table) := by
  induction h with
  | nothing => simp
  | known _ _ ih => exact ih
  | unknown _ _ _ ih₁ ih₂ => rw [ih₂, ih₁]; simp [store]

theorem classes_eq (h : Served family r requested tables described r') :
    r'.classes = r.classes ++ described := by
  rw [classes, h.tables_eq]
  simp [classes, Assoc.keys, Function.comp_def]

theorem classes_subset (h : Served family r requested tables described r') :
    r.classes ⊆ r'.classes := by
  rw [h.classes_eq]
  exact List.subset_append_left _ _

theorem find?_eq_some (h : Served family r requested tables described r') {k : κ} {t : MethodTable}
    (hk : r.find? k = some t) : r'.find? k = some t := by
  rw [ClassRegistry.find?] at hk ⊢
  rw [h.tables_eq, Assoc.find?_append, hk, Option.some_or]

theorem requested_mem (h : Served family r requested tables described r') :
    ∀ k ∈ requested, k ∈ r'.classes := by
  induction h with
  | nothing => simp
  | known hk hrest ih =>
    exact List.forall_mem_cons.mpr ⟨hrest.classes_subset (mem_classes_of_find? hk), ih⟩
  | unknown _ hnested hrest _ ih =>
    refine List.forall_mem_cons.mpr ⟨hrest.classes_subset (hnested.classes_subset ?_), ih⟩
    simp

/-- The classes that a described one returns are there when the requests come back, though not as
    soon as it is there itself. -/
theorem returns_mem (h : Served family r requested tables described r') :
    ∀ k ∈ described, ∀ c, family.Returns k c → c ∈ r'.classes := by
  induction h with
  | nothing => simp
  | known _ _ ih => exact ih
  | unknown _ hnested hrest ih₁ ih₂ =>
    intro k hk c hc
    rcases List.mem_cons.mp hk with rfl | hk
    · exact hrest.classes_subset (hnested.requested_mem c hc)
    · rcases List.mem_append.mp hk with hk | hk
      · exact hrest.classes_subset (ih₁ k hk c hc)
      · exact ih₂ k hk c hc

theorem reaches (h : Served family r requested tables described r') :
    ∀ c ∈ described, family.Reaches requested c := by
  induction h with
  | nothing => simp
  | known _ _ ih =>
    intro c hc
    obtain ⟨k, hk, hchain⟩ := ih c hc
    exact ⟨k, List.mem_cons_of_mem _ hk, hchain⟩
  | unknown _ _ _ ih₁ ih₂ =>
    intro c hc
    rcases List.mem_cons.mp hc with rfl | hc
    · exact ⟨c, List.mem_cons_self, .refl⟩
    · rcases List.mem_append.mp hc with hc | hc
      · obtain ⟨k, hk, hchain⟩ := ih₁ c hc
        exact ⟨_, List.mem_cons_self, .head hk hchain⟩
      · obtain ⟨k, hk, hchain⟩ := ih₂ c hc
        exact ⟨k, List.mem_cons_of_mem _ hk, hchain⟩

/-- A class is described only while it is not in the registry, so never again. -/
theorem nodup (h : Served family r requested tables described r') (hr : r.classes.Nodup) :
    r'.classes.Nodup := by
  induction h with
  | nothing => exact hr
  | known _ _ ih => exact ih hr
  | unknown hk _ _ ih₁ ih₂ =>
    refine ih₂ (ih₁ ?_)
    have hnew := find?_eq_none_iff.mp hk
    rw [classes_store, List.nodup_append]
    refine ⟨hr, by simp, ?_⟩
    rintro c hc _ hlast rfl
    exact hnew (List.mem_singleton.mp hlast ▸ hc)

theorem unseen_eq (h : Served family r requested tables described r') :
    r'.unseen family = (r.unseen family).filter fun c => c ∉ described := by
  rw [unseen, unseen, List.filter_filter]
  refine List.filter_congr fun c _ => ?_
  rw [Bool.eq_iff_iff]
  simp [find?_eq_none_iff, h.classes_eq, not_or, and_comm]

end Served

/-! ### Every request comes back -/

theorem unseen_store (r : ClassRegistry κ) (family : ClassFamily κ) (k : κ) (t : MethodTable) :
    (r.store k t).unseen family = ClassFamily.without k (r.unseen family) := by
  rw [unseen, unseen, ClassFamily.without, List.filter_filter]
  refine List.filter_congr fun c _ => ?_
  rw [Bool.eq_iff_iff]
  simp [find?_eq_none_iff, not_or, and_comm]

/-- By the number of classes that remain to be described: it falls with every description, and so
    it is smaller for all requests that follow one, nested or not. -/
theorem exists_served (family : ClassFamily κ) (r : ClassRegistry κ) (requested : List κ) :
    ∃ tables described r', Served family r requested tables described r' := by
  induction hn : (r.unseen family).length using Nat.strongRecOn generalizing r requested with
  | _ n ih =>
    induction requested with
    | nil => exact ⟨[], [], r, .nothing⟩
    | cons k requested ihrest =>
      cases hk : r.find? k with
      | some t =>
        obtain ⟨tables, described, r', hrest⟩ := ihrest
        exact ⟨t :: tables, described, r', .known hk hrest⟩
      | none =>
        have hstored : ((r.store k (family.describe k).table).unseen family).length < n := by
          rw [unseen_store, ← hn]
          exact ClassFamily.length_without_lt (mem_unseen_iff.mpr (find?_eq_none_iff.mp hk))
        obtain ⟨unused, nested, inside, hnested⟩ := ih _ hstored _ (family.describe k).returns rfl
        have hinside : (inside.unseen family).length < n := by
          rw [hnested.unseen_eq]
          exact Nat.lt_of_le_of_lt (List.length_filter_le _ _) hstored
        obtain ⟨tables, others, r', hrest⟩ := ih _ hinside _ requested rfl
        exact ⟨_, _, r', .unknown hk hnested hrest⟩

/-! ### The registry answers as the nested requests do -/

namespace Served

variable {requested described : List κ} {tables : List MethodTable}

theorem discover_eq (h : Served family r requested tables described r') :
    family.discover (r.unseen family) requested = described := by
  induction h with
  | nothing => exact ClassFamily.discover_of_find?_none rfl
  | @known r r' k t requested tables described hk _ ih =>
    have hgone : k ∉ r.unseen family := by simp [unseen, hk]
    rw [ClassFamily.discover_cons_of_not_mem hgone, ih]
  | @unknown r inside r' k requested nested others tables unused hk hnested _ ih₁ ih₂ =>
    have hremains : k ∈ r.unseen family := mem_unseen_iff.mpr (find?_eq_none_iff.mp hk)
    have hgone : k ∉ inside.unseen family := by
      intro hk
      exact mem_unseen_iff.mp hk (hnested.classes_subset (by simp))
    rw [ClassFamily.discover_cons_of_mem hremains, ← unseen_store r family k (family.describe k).table,
      ClassFamily.discover_append, ih₁, ← hnested.unseen_eq, ClassFamily.discover_cons_of_not_mem hgone,
      ih₂]

theorem tablesFor_eq (h : Served family r requested tables described r') :
    r.tablesFor family requested = (tables, r') := by
  induction h with
  | nothing => rfl
  | known hk _ ih => simp only [tablesFor, tableFor_of_find? hk, ih]
  | @unknown r inside r' k requested nested others tables unused hk hnested _ _ ih =>
    -- The request for this class alone: the registry finds what the nested requests describe.
    have halone : Served family r [k] [(family.describe k).table] (k :: (nested ++ [])) inside :=
      .unknown hk hnested .nothing
    have hsee : r.see family k = inside := by rw [see_eq, halone.discover_eq, ← halone.tables_eq]
    simp only [tablesFor, ClassRegistry.tableFor, hk, hsee, ih]

end Served

/-- The nested requests come back in one way only: with the answers of the registry, after those
    descriptions by which its classes became more. -/
theorem served_iff {requested described : List κ} {tables : List MethodTable} :
    Served family r requested tables described r' ↔
      r.tablesFor family requested = (tables, r') ∧ r'.classes = r.classes ++ described := by
  constructor
  · intro h
    exact ⟨h.tablesFor_eq, h.classes_eq⟩
  · rintro ⟨hanswers, hclasses⟩
    obtain ⟨tables', described', r'', h⟩ := exists_served family r requested
    obtain ⟨rfl, rfl⟩ := Prod.mk.inj (h.tablesFor_eq.symm.trans hanswers)
    rw [h.classes_eq, List.append_cancel_left_eq] at hclasses
    exact hclasses ▸ h

/-! ### A registry that starts empty -/

section FromEmpty

variable (family : ClassFamily κ) (requested : List κ)

theorem served_tablesFor :
    Served family empty requested (empty.tablesFor family requested).1
      (empty.tablesFor family requested).2.classes (empty.tablesFor family requested).2 :=
  served_iff.mpr ⟨rfl, rfl⟩

theorem mem_classes_tablesFor_iff {c : κ} :
    c ∈ (empty.tablesFor family requested).2.classes ↔ family.Reaches requested c := by
  have hserved := served_tablesFor family requested
  constructor
  · exact hserved.reaches c
  · intro h
    exact h.of_closed hserved.requested_mem hserved.returns_mem

/-- The requests come back, in one way only: with the answers of the registry, after each of its
    classes was described, once.  The classes are those that the requested ones reach.  A request
    for one of them is answered with the table that it was first described with, and describes
    nothing, whatever was requested since and however the classes would be described by then.  All
    this holds of any list of requests, so it holds after each request of a longer one. -/
theorem discovery_closed :
    let answers := empty.tablesFor family requested
    (∀ tables described after, Served family empty requested tables described after ↔
      tables = answers.1 ∧ described = answers.2.classes ∧ after = answers.2) ∧
    answers.2.classes.Nodup ∧
    (∀ c, c ∈ answers.2.classes ↔ family.Reaches requested c) ∧
    answers.1 = requested.map (fun k => (family.describe k).table) ∧
    (∀ c ∈ answers.2.classes, ∀ (later : ClassFamily κ) (more : List κ),
      let now := (answers.2.tablesFor later more).2
      now.tableFor later c = ((family.describe c).table, now)) := by
  intro answers
  have hserved : Served family empty requested answers.1 answers.2.classes answers.2 :=
    served_tablesFor family requested
  refine ⟨?ends, hserved.nodup List.nodup_nil, fun c => mem_classes_tablesFor_iff family requested,
    (describes_empty family).tablesFor_fst requested, ?first⟩
  case ends =>
    intro tables described after
    constructor
    · intro h
      obtain ⟨hanswers, hclasses⟩ := served_iff.mp h
      obtain ⟨rfl, rfl⟩ := Prod.mk.inj hanswers
      exact ⟨rfl, hclasses.symm, rfl⟩
    · rintro ⟨rfl, rfl, rfl⟩
      exact hserved
  case first =>
    intro c hc later more now
    have hfirst : answers.2.find? c = some (family.describe c).table :=
      ((describes_empty family).tablesFor requested).find? hc
    obtain ⟨tables, described, r, hmore⟩ := exists_served later answers.2 more
    have hnow : now = r := congrArg Prod.snd hmore.tablesFor_eq
    exact tableFor_of_find? (hnow ▸ hmore.find?_eq_some hfirst) later

end FromEmpty

/-- Five classes with tables of some names.  Class 1 returns class 3, class 2 and class 3 again;
    class 2 returns class 3 as well, and class 0; class 3 returns class 1, and itself; class 4
    returns class 1, and no class returns it. -/
def knotted (name : Fin 5 → String) : ClassFamily (Fin 5) where
  all := [0, 1, 2, 3, 4]
  describe k := ⟨⟨name k, [], []⟩, [[], [3, 2, 3], [3, 0], [1, 3], [1]][k]⟩
  mem_all := by decide

theorem discovery_closed_knotted :
    let early := knotted fun k => ["zero", "one", "two", "three", "four"][k]
    let late := knotted fun _ => "late"
    let answers := empty.tablesFor early [1, 3]
    answers.1 = [⟨"one", [], []⟩, ⟨"three", [], []⟩] ∧ answers.2.classes = [1, 3, 2, 0] ∧
    ¬ early.Reaches [1, 3] 4 ∧
    ∀ more, let now := (answers.2.tablesFor late more).2
      now.tableFor late 0 = (⟨"zero", [], []⟩, now) := by
  intro early late answers
  obtain ⟨hends, -, hreached, -, hfirst⟩ := discovery_closed early [1, 3]
  -- Class 3 is requested while class 1 is, and so comes before class 2, which also returns it.
  have hone : Served early empty [1, 3] _ _ _ :=
    .unknown rfl
      (.unknown rfl (.known rfl (.known rfl .nothing))
        (.unknown rfl (.known rfl (.unknown rfl .nothing .nothing)) (.known rfl .nothing)))
      (.known rfl .nothing)
  obtain ⟨htables, hclasses, -⟩ := (hends _ _ _).mp hone
  have hfound : answers.2.classes = [1, 3, 2, 0] := hclasses.symm
  refine ⟨htables.symm, hfound, ?_, ?_⟩
  · intro h
    have hmem := (hreached 4).mpr h
    change 4 ∈ answers.2.classes at hmem
    rw [hfound] at hmem
    exact absurd hmem (by decide)
  · have hmem : (0 : Fin 5) ∈ answers.2.classes := by rw [hfound]; decide
    exact hfirst 0 hmem late

end ClassRegistry
end ScriptBridge
