/-
  ScriptBridge/Proofs/Descriptor/Canonical.lean
  =============================================
  **One way to write each description.**

  Many values read as the same description: attributes may come in several maps,
  override and take back one another, and whatever cannot be used is left out.
  Of all of them one is canonical, a tag, one map with the attributes that there
  are, and the children.  It reads back as the description without a warning,
  and a description that was read is well formed at every node, so that reading
  is a retraction onto the canonical values (`reads_canonically`).
-/
import Mathlib.Data.List.Forall2
import ScriptBridge.Proofs.Data.Sorted
import ScriptBridge.Proofs.Descriptor.Logic

namespace ScriptBridge

/-! ### Parts of a description -/

namespace Descriptor

/-- What is said about the node itself.  A container has nothing but a name. -/
def attributes : Descriptor → Attributes
  | .leaf _ a => a
  | .container _ name _ => { Attributes.none with name := name }

def children : Descriptor → List Descriptor
  | .leaf .. => []
  | .container _ _ children => children

mutual

/-- The nodes of a description, each before its children. -/
def nodes : Descriptor → List Descriptor
  | .leaf kind a => [.leaf kind a]
  | .container axis name children => .container axis name children :: nodesAll children

def nodesAll : List Descriptor → List Descriptor
  | [] => []
  | d :: rest => nodes d ++ nodesAll rest

end

/-- A node has only what its tag allows, and no blank logic. -/
structure Shaped (d : Descriptor) : Prop where
  leaf : ∀ kind, d.tag = .leaf kind → d.children = []
  container : ∀ axis, d.tag = .container axis →
    d.attributes.text = none ∧ d.attributes.image = none ∧ d.attributes.logic = none ∧
      d.attributes.list = none
  logic : Runnable d.attributes.logic

/-- Every node has only what its tag allows. -/
def WellFormed (d : Descriptor) : Prop := ∀ node ∈ d.nodes, node.Shaped

theorem shaped_leaf {kind : WidgetKind} {a : Attributes} :
    (Descriptor.leaf kind a).Shaped ↔ Runnable a.logic := by
  constructor
  · intro h
    exact h.logic
  · intro ha
    exact ⟨fun _ _ => rfl, fun _ h => (nomatch h), ha⟩

theorem shaped_container (axis : Axis) (name : Option String) (children : List Descriptor) :
    (Descriptor.container axis name children).Shaped := by
  exact ⟨fun _ h => (nomatch h), fun _ _ => ⟨rfl, rfl, rfl, rfl⟩, runnable_none⟩

theorem mem_nodesAll {node : Descriptor} {children : List Descriptor} :
    node ∈ nodesAll children ↔ ∃ d ∈ children, node ∈ d.nodes := by
  induction children with
  | nil => simp [nodesAll]
  | cons d rest ih => simp [nodesAll, ih]

theorem wellFormed_leaf {kind : WidgetKind} {a : Attributes} :
    (Descriptor.leaf kind a).WellFormed ↔ Runnable a.logic := by
  simp only [WellFormed, nodes, List.mem_singleton, forall_eq, shaped_leaf]

theorem wellFormed_container {axis : Axis} {name : Option String} {children : List Descriptor} :
    (Descriptor.container axis name children).WellFormed ↔ ∀ d ∈ children, d.WellFormed := by
  simp only [WellFormed, nodes, List.mem_cons, mem_nodesAll]
  constructor
  · intro h d hd node hnode
    exact h node (Or.inr ⟨d, hd, hnode⟩)
  · rintro h node (rfl | ⟨d, hd, hnode⟩)
    · exact shaped_container axis name children
    · exact h d hd node hnode

theorem Runs.wellFormed {d : Descriptor} (h : d.Runs) : d.WellFormed := by
  induction h with
  | leaf ha => exact wellFormed_leaf.mpr ha
  | container _ ih => exact wellFormed_container.mpr ih

end Descriptor

/-! ### Writing a description -/

def Program.toValue : Program → Value
  | .source text => .string text
  | .bytes octets => .bytes octets

theorem Program.Logic.ofValue_toValue {program : Program} (h : program.isBlank = false) :
    Logic.ofValue program.toValue = .present program := by
  cases program with
  | source text =>
    have htext : Text.isBlank text = false := h
    simp [toValue, Logic.ofValue, htext]
  | bytes octets =>
    have hoctets : octets.isEmpty = false := h
    simp [toValue, Logic.ofValue, hoctets]

namespace Attributes

/-- The entry for an attribute that there may be. -/
def entry (key : String) (v? : Option Value) : List (String × Value) :=
  (v?.map fun v => (key, v)).toList

/-- The attributes that there are, in the order of their names. -/
def entries (a : Attributes) : List (String × Value) :=
  entry "image" (a.image.map .string) ++ entry "list" (a.list.map .list) ++
    entry "logic" (a.logic.map Program.toValue) ++ entry "name" (a.name.map .string) ++
    entry "text" (a.text.map .string)

theorem keys_entry (key : String) (v? : Option Value) :
    ((entry key v?).map Prod.fst).Sublist [key] := by
  cases v? with
  | none => exact List.nil_sublist _
  | some v => exact List.Sublist.refl _

/-- The entries are a map: the keys increase. -/
theorem sorted_entries (a : Attributes) : Assoc.Sorted a.entries := by
  have hkeys : (["image"] ++ ["list"] ++ ["logic"] ++ ["name"] ++ ["text"]).Pairwise (· < ·) := by
    decide
  refine List.pairwise_map.mp (hkeys.sublist ?_)
  simp only [entries, List.map_append]
  exact ((((keys_entry _ _).append (keys_entry _ _)).append (keys_entry _ _)).append
    (keys_entry _ _)).append (keys_entry _ _)

/-- Reading an entry gives the next attributes, and so does leaving it away when there is none. -/
theorem setAll_entry {α : Type} {a a' : Attributes} {key : String} {f : α → Value} {o : Option α}
    {rest : List (String × Value)} (hnone : o = .none → a' = a)
    (hsome : ∀ x, o = some x → a.set key (f x) = .ok a') :
    a.setAll (entry key (o.map f) ++ rest) = a'.setAll rest := by
  cases o with
  | none =>
    rw [hnone rfl]
    rfl
  | some x => simp [entry, setAll, hsome x rfl]

theorem setAll_entries {a : Attributes} (ha : Runnable a.logic) :
    Attributes.none.setAll a.entries = (a, []) := by
  obtain ⟨name, text, image, logic, list⟩ := a
  have htext : entry "text" (text.map .string) = entry "text" (text.map .string) ++ [] := by simp
  simp only [entries, List.append_assoc]
  rw [htext]
  -- One attribute after the other, in key order.
  calc Attributes.none.setAll _
    _ = (⟨.none, .none, image, .none, .none⟩ : Attributes).setAll _ :=
      setAll_entry (by rintro rfl; rfl) (by rintro x rfl; rfl)
    _ = (⟨.none, .none, image, .none, list⟩ : Attributes).setAll _ :=
      setAll_entry (by rintro rfl; rfl) (by rintro x rfl; rfl)
    _ = (⟨.none, .none, image, logic, list⟩ : Attributes).setAll _ := by
      refine setAll_entry (by rintro rfl; rfl) ?_
      rintro program rfl
      simp [set, Program.Logic.ofValue_toValue (ha program rfl)]
    _ = (⟨name, .none, image, logic, list⟩ : Attributes).setAll _ :=
      setAll_entry (by rintro rfl; rfl) (by rintro x rfl; rfl)
    _ = (⟨name, text, image, logic, list⟩ : Attributes).setAll [] :=
      setAll_entry (by rintro rfl; rfl) (by rintro x rfl; rfl)
    _ = _ := rfl

end Attributes

namespace Descriptor

mutual

/-- The canonical value of a description. -/
def encode : Descriptor → Value
  | .leaf kind a => .list [.string kind.name, .map a.entries]
  | .container axis name children =>
    .list (.string (Tag.container axis).name ::
      .map { Attributes.none with name := name }.entries :: encodeAll children)

def encodeAll : List Descriptor → List Value
  | [] => []
  | d :: rest => encode d :: encodeAll rest

end

/-- Of any tag, the canonical value is the tag, the attributes and the children. -/
theorem encode_eq (d : Descriptor) :
    d.encode = .list (.string d.tag.name :: .map d.attributes.entries :: encodeAll d.children) := by
  cases d with
  | leaf kind a => rfl
  | container axis name children => rfl

end Descriptor

/-! ### Reading what was written -/

namespace Tag

theorem ofName?_name (tag : Tag) : ofName? tag.name = some tag := by
  rcases tag with (_ | _ | _ | _) | (_ | _) <;> decide

theorem ofName?_eq_none_iff {name : String} : ofName? name = none ↔ ∀ tag : Tag, tag.name ≠ name := by
  constructor
  · intro h tag htag
    rw [← htag, ofName?_name] at h
    cases h
  · intro h
    exact List.find?_eq_none.mpr fun tag _ => by simpa using h tag

end Tag

namespace Descriptor

mutual

theorem readNode_encode (above : List Tag) :
    ∀ d : Descriptor, d.WellFormed → readNode above d.encode = .ok (d, [])
  | .leaf kind a, h => by
    have hread : Tag.ofName? kind.name = some (.leaf kind) := Tag.ofName?_name (.leaf kind)
    simp only [encode, readNode, hread, readItems, Attributes.setAll_entries (wellFormed_leaf.mp h)]
    rfl
  | .container axis name children, h => by
    have hattributes : Attributes.none.setAll { Attributes.none with name := name }.entries =
        ({ Attributes.none with name := name }, []) := Attributes.setAll_entries runnable_none
    simp only [encode, readNode, Tag.ofName?_name, readItems, hattributes,
      readItems_encodeAll _ axis _ _ children (wellFormed_container.mp h)]
    rfl

theorem readItems_encodeAll (path : List Tag) (axis : Axis) :
    ∀ (index : Nat) (a : Attributes) (children : List Descriptor),
      (∀ d ∈ children, d.WellFormed) →
        readItems path (.container axis) index a (encodeAll children) = ⟨a, children, []⟩
  | _, _, [], _ => rfl
  | index, a, d :: rest, h => by
    have hchild : readNode path d.encode = .ok (d, []) :=
      readNode_encode path d (h d List.mem_cons_self)
    have hrest := readItems_encodeAll path axis (index + 1) a rest fun d hd =>
      h d (List.mem_cons_of_mem _ hd)
    rw [encode_eq] at hchild
    rw [encodeAll, encode_eq]
    simp only [readItems, hchild, hrest]
    rfl

end

/-! ### Reading without a warning -/

/-- The elements of a node that are nodes themselves. -/
def inner (items : List Value) : List Value := items.filter fun v => v.asList?.isSome

/-- Nothing of the value was left out: every element is a map or a list, no leaf has a list, and the
    lists in a container are its children, in order. -/
inductive Covers : Value → Descriptor → Prop where
  | leaf {kind : WidgetKind} {a : Attributes} {items : List Value}
      (hmaps : ∀ v ∈ items, v.asMap?.isSome) : Covers (.list (.string kind.name :: items)) (.leaf kind a)
  | container {axis : Axis} {name : Option String} {children : List Descriptor} {items : List Value}
      (helements : ∀ v ∈ items, v.asMap?.isSome ∨ v.asList?.isSome)
      (hchildren : List.Forall₂ Covers (inner items) children) :
      Covers (.list (.string (Tag.container axis).name :: items)) (.container axis name children)

/-- What the elements of a node must satisfy, by its tag, for the node to be covered. -/
def CoversItems (items : List Value) (children : List Descriptor) : Tag → Prop
  | .leaf _ => ∀ v ∈ items, v.asMap?.isSome
  | .container _ =>
    (∀ v ∈ items, v.asMap?.isSome ∨ v.asList?.isSome) ∧ List.Forall₂ Covers (inner items) children

theorem CoversItems.cons_map {tag : Tag} {entries : List (String × Value)} {rest : List Value}
    {children : List Descriptor} (h : CoversItems rest children tag) :
    CoversItems (.map entries :: rest) children tag := by
  cases tag with
  | leaf kind =>
    intro v hv
    rcases List.mem_cons.mp hv with rfl | hv
    · rfl
    · exact h v hv
  | container axis =>
    refine ⟨?_, h.2⟩
    intro v hv
    rcases List.mem_cons.mp hv with rfl | hv
    · exact Or.inl rfl
    · exact h.1 v hv

theorem CoversItems.cons_list {axis : Axis} {items rest : List Value} {d : Descriptor}
    {children : List Descriptor} (hchild : Covers (.list items) d)
    (h : CoversItems rest children (.container axis)) :
    CoversItems (.list items :: rest) (d :: children) (.container axis) := by
  refine ⟨?_, .cons hchild h.2⟩
  intro v hv
  rcases List.mem_cons.mp hv with rfl | hv
  · exact Or.inr rfl
  · exact h.1 v hv

theorem CoversItems.toNode {tag : Tag} {body : Body} {items : List Value}
    (h : CoversItems items body.children tag) (path : List Tag) :
    Covers (.list (.string tag.name :: items)) (body.toNode path tag).1 := by
  cases tag with
  | leaf kind => exact .leaf h
  | container axis => exact .container h.1 h.2

theorem Body.warnings_of_toNode {path : List Tag} {tag : Tag} {body : Body}
    (h : (body.toNode path tag).2 = []) : body.warnings = [] := by
  cases tag with
  | leaf kind => exact h
  | container axis => exact (List.append_eq_nil_iff.mp h).1

/-- Along the reader: a node that is read without a warning is covered, and so are the elements. -/
theorem covers_readNode (above : List Tag) (v : Value) :
    ∀ d, readNode above v = .ok (d, []) → Covers v d := by
  induction above, v using fun motive => readNode.induct motive fun path tag index a items =>
    (readItems path tag index a items).warnings = [] →
      CoversItems items (readItems path tag index a items).children tag with
  | case1 above name items tag htag path ih =>
    intro d h
    simp only [readNode, htag, Except.ok.injEq] at h
    have hname : tag.name = name := by simpa using List.find?_some htag
    have hwarnings := Body.warnings_of_toNode (congrArg Prod.snd h)
    have hcovers := (ih hwarnings).toNode (above ++ [tag])
    rw [h, hname] at hcovers
    exact hcovers
  | case2 above name items htag => simp [readNode, htag]
  | case3 above v tail hv =>
    intro d h
    unfold readNode at h
    split at h
    · next hname => exact absurd (List.cons.inj (Value.list.inj hname)).1 (hv _)
    all_goals cases h
  | case4 above => simp [readNode]
  | case5 above v h1 h2 h3 => simp [readNode]
  | case6 path tag index a _ =>
    cases tag with
    | leaf kind =>
      intro _ hv
      cases hv
    | container axis =>
      refine ⟨?_, .nil⟩
      intro _ hv
      cases hv
  | case7 path tag index a rest entries a' faults hset ih h =>
    simp only [readItems, hset, List.append_eq_nil_iff] at h ⊢
    exact (ih h.2).cons_map
  | case8 path index a rest items kind ih h =>
    simp [readItems] at h
  | case9 path index a rest items axis child warnings hread ih ihchild h =>
    simp only [readItems, hread, List.append_eq_nil_iff] at h ⊢
    exact .cons_list (ihchild child (by rw [hread, h.1])) (ih h.2)
  | case10 path index a rest items axis e hread ih ihchild h =>
    simp [readItems, hread] at h
  | case11 path tag index a rest v hmap hlist ih h =>
    simp [readItems] at h

/-! ### The whole reader -/

/-- The value is no node: it is not a list, or it has no tag, or one that is not a string or unknown. -/
inductive Formless : Value → Prop where
  | notAList {v : Value} (h : ∀ items, v ≠ .list items) : Formless v
  | empty : Formless (.list [])
  | tagNotString {first : Value} {rest : List Value} (h : ∀ name, first ≠ .string name) :
      Formless (.list (first :: rest))
  | unknownTag {name : String} {rest : List Value} (h : ∀ tag : Tag, tag.name ≠ name) :
      Formless (.list (.string name :: rest))

/-- Whatever a node has inside, reading it fails by its own form alone. -/
theorem readNode_error_iff {above : List Tag} {v : Value} :
    (∃ e, readNode above v = .error e) ↔ Formless v := by
  constructor
  · rintro ⟨e, he⟩
    cases v with
    | list items =>
      rcases items with _ | ⟨first, rest⟩
      · exact .empty
      · cases first with
        | string name =>
          refine .unknownTag (Tag.ofName?_eq_none_iff.mp ?_)
          cases hname : Tag.ofName? name with
          | none => rfl
          | some tag => simp [readNode, hname] at he
        | _ => exact .tagNotString (by simp)
    | _ => exact .notAList (by simp)
  · intro h
    cases h with
    | notAList hlist =>
      cases v with
      | list items => exact absurd rfl (hlist items)
      | _ => exact ⟨_, rfl⟩
    | empty => exact ⟨_, rfl⟩
    | @tagNotString first rest hstring =>
      cases first with
      | string name => exact absurd rfl (hstring name)
      | _ => exact ⟨_, rfl⟩
    | @unknownTag name rest hname =>
      refine ⟨.unknownTag name, ?_⟩
      simp only [readNode, Tag.ofName?_eq_none_iff.mpr hname]

/-- Reading fails by the form of the root alone.  What it gives is well formed and, written in the
    canonical way, reads as itself without a warning, as any well-formed description does.  Where it
    gives no warning, it has left nothing out. -/
theorem reads_canonically (v : Value) :
    ((∃ e, ofValue v = .error e) ↔ Formless v) ∧
      (∀ d warnings, ofValue v = .ok (d, warnings) →
        d.WellFormed ∧ ofValue d.encode = .ok (d, [])) ∧
      (∀ d : Descriptor, d.WellFormed → ofValue d.encode = .ok (d, [])) ∧
      (∀ d, ofValue v = .ok (d, []) → Covers v d) := by
  refine ⟨readNode_error_iff, ?_, readNode_encode [], covers_readNode [] v⟩
  intro d warnings h
  have hwell : d.WellFormed := (runs_ofValue h).wellFormed
  exact ⟨hwell, readNode_encode [] d hwell⟩

-- The second logic is blank, and a leaf has no children.
example :
    let v : Value := .list [.string "button", .map [("logic", .string "f()"), ("text", .int 1)],
      .list [.string "label"], .map [("logic", .string " ")]]
    (ofValue v).map (fun read => (read.1.encode, read.2.map Warning.message)) =
      .ok (.list [.string "button", .map [("text", .string "1")]],
        ["button[2]: leaf \"button\" cannot have children"]) := by
  rfl

end Descriptor
end ScriptBridge
