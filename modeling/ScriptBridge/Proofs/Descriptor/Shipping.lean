/-
  ScriptBridge/Proofs/Descriptor/Shipping.lean
  ============================================
  **Programs as text and as octets.**

  A program shipped as the octets of its text decodes to the text, so that it has
  one text form either way (`Program.inText`).  As the logic of a widget a text
  and its octets are read alike as well, with one exception: a text of blanks
  alone counts as no logic, and its octets, unless there are none, count as one.

  A description whose logics are shipped as octets is read as the same
  description with the programs shipped.  The warnings stay the same, since no
  octets that come from a text are ever refused.
-/
import ScriptBridge.Descriptor.Reader
import ScriptBridge.Proofs.Text.Utf8

namespace ScriptBridge

/-! ### Programs -/

namespace Program

/-- The program as a text, if its octets are the octets of one. -/
def inText : Program → Program
  | .source text => .source text
  | .bytes octets =>
    match Utf8.decode octets with
    | .ok cs => .source (String.ofList cs)
    | .error _ => .bytes octets

theorem decode_inText (p : Program) : p.inText.decode = p.decode := by
  cases p with
  | source text => rfl
  | bytes octets =>
    cases h : Utf8.decode octets with
    | ok cs => simp [inText, decode, h, Except.map]
    | error e => simp [inText, decode, h]

theorem decode_octets (text : String) : (Program.bytes (Utf8.octets text)).decode = .ok text := by
  simp [decode, Utf8.decode_octets, Except.map]

theorem inText_octets (text : String) : (Program.bytes (Utf8.octets text)).inText = .source text := by
  simp [inText, Utf8.decode_octets]

/-- The chosen texts are shipped as their octets. -/
def shipped (choose : String → Bool) : Program → Program
  | .source text => if choose text then .bytes (Utf8.octets text) else .source text
  | .bytes octets => .bytes octets

theorem inText_shipped (choose : String → Bool) (p : Program) : (p.shipped choose).inText = p.inText := by
  cases p with
  | bytes octets => rfl
  | source text =>
    by_cases hchosen : choose text = true
    · simp only [shipped, hchosen, if_true]
      exact inText_octets text
    · simp only [shipped, hchosen, if_false, Bool.false_eq_true]

/-- As a logic, the text and its octets are both something, or both nothing. -/
def Steady (text : String) : Prop := text = "" ∨ Text.isBlank text = false

namespace Logic

def map (f : Program → Program) : Logic → Logic
  | .absent => .absent
  | .present p => .present (f p)
  | .unreadable found => .unreadable found

theorem ofValue_octets (text : String) :
    ofValue (.bytes (Utf8.octets text)) =
      if text = "" then .absent else .present (.bytes (Utf8.octets text)) := by
  simp [ofValue, Utf8.octets_eq_nil_iff]

theorem ofValue_text (text : String) :
    ofValue (.string text) = if Text.isBlank text then .absent else .present (.source text) := rfl

end Logic
end Program

/-! ### Values -/

namespace Value

/-- A text as its octets, if it is chosen. -/
def logicShipped (choose : String → Bool) : Value → Value
  | .string text => if choose text then .bytes (Utf8.octets text) else .string text
  | v => v

/-- An entry of a map with its text shipped, if it is a logic. -/
def entryShipped (choose : String → Bool) (e : String × Value) : String × Value :=
  if e.1 = "logic" then (e.1, e.2.logicShipped choose) else e

mutual

/-- A description in which the chosen logics are shipped as octets. -/
def shipped (choose : String → Bool) : Value → Value
  | .list items => .list (shippedItems choose items)
  | .map entries => .map (entries.map (entryShipped choose))
  | v => v

def shippedItems (choose : String → Bool) : List Value → List Value
  | [] => []
  | v :: rest => v.shipped choose :: shippedItems choose rest

end

end Value

/-! ### Descriptions -/

def Attributes.mapLogic (f : Program → Program) (a : Attributes) : Attributes :=
  { a with logic := a.logic.map f }

namespace Descriptor

mutual

/-- The description with another program at every leaf that has one. -/
def mapLogic (f : Program → Program) : Descriptor → Descriptor
  | .leaf kind a => .leaf kind (a.mapLogic f)
  | .container axis name children => .container axis name (mapLogicAll f children)

def mapLogicAll (f : Program → Program) : List Descriptor → List Descriptor
  | [] => []
  | d :: rest => d.mapLogic f :: mapLogicAll f rest

end

def Body.mapLogic (f : Program → Program) (body : Body) : Body :=
  { body with attributes := body.attributes.mapLogic f, children := mapLogicAll f body.children }

end Descriptor

theorem Attributes.set_logic (a : Attributes) (v : Value) :
    a.set "logic" v =
      match Program.Logic.ofValue v with
      | .absent => .ok { a with logic := Option.none }
      | .present program => .ok { a with logic := some program }
      | .unreadable _ => .error (.badAttribute "logic" "string or bytes" v.typeName) := rfl

/-- No other attribute has to do with the programs. -/
theorem Attributes.set_mapLogic_of_ne {key : String} (hkey : key ≠ "logic") (f : Program → Program)
    (a : Attributes) (v : Value) : (a.mapLogic f).set key v = (a.set key v).map (mapLogic f) := by
  by_cases hname : key = "name"
  · subst hname
    cases v <;> rfl
  by_cases htext : key = "text"
  · subst htext
    cases v <;> rfl
  by_cases himage : key = "image"
  · subst himage
    cases v <;> rfl
  by_cases hlist : key = "list"
  · subst hlist
    cases v <;> rfl
  · simp only [set, hkey, hname, htext, himage, hlist, if_false]
    rfl

theorem Attributes.unusedByContainer_mapLogic (f : Program → Program) (a : Attributes) :
    (a.mapLogic f).unusedByContainer = a.unusedByContainer := by
  unfold unusedByContainer mapLogic
  cases a.logic <;> rfl

theorem Descriptor.Body.toNode_mapLogic (f : Program → Program) (body : Body) (path : List Tag)
    (tag : Tag) :
    (body.mapLogic f).toNode path tag =
      ((body.toNode path tag).1.mapLogic f, (body.toNode path tag).2) := by
  cases tag with
  | leaf kind => rfl
  | container axis =>
    simp only [toNode, Body.mapLogic, Descriptor.mapLogic, Attributes.unusedByContainer_mapLogic]
    rfl

/-! ### Reading what was shipped -/

section
variable {choose : String → Bool} (hchoose : ∀ text, choose text = true → Program.Steady text)

include hchoose

theorem Program.Logic.ofValue_shipped (v : Value) :
    ofValue (v.logicShipped choose) = (ofValue v).map (Program.shipped choose) := by
  cases v with
  | string text =>
    simp only [Value.logicShipped]
    by_cases hchosen : choose text = true
    · rw [if_pos hchosen, ofValue_octets, ofValue_text]
      rcases hchoose text hchosen with rfl | hblank
      · rfl
      · have hempty : text ≠ "" := by
          rintro rfl
          cases hblank
        simp [hempty, hblank, map, shipped, hchosen]
    · rw [if_neg hchosen, ofValue_text]
      split
      · rfl
      · simp [map, shipped, hchosen]
  | bytes octets =>
    simp only [Value.logicShipped, ofValue]
    split <;> rfl
  | _ => rfl

theorem Attributes.set_shipped (a : Attributes) (key : String) (v : Value) :
    (a.mapLogic (Program.shipped choose)).set key (Value.entryShipped choose (key, v)).2 =
      (a.set key v).map (mapLogic (Program.shipped choose)) := by
  by_cases hlogic : key = "logic"
  · subst hlogic
    have hentry : Value.entryShipped choose ("logic", v) = ("logic", v.logicShipped choose) := rfl
    rw [hentry, set_logic, set_logic, Program.Logic.ofValue_shipped hchoose]
    cases hread : Program.Logic.ofValue v with
    | absent => rfl
    | present program => rfl
    | unreadable found =>
      -- What is no program is no text either, and stays as it is.
      cases v with
      | string text =>
        rw [Program.Logic.ofValue_text] at hread
        split at hread <;> cases hread
      | _ => rfl
  · have hentry : Value.entryShipped choose (key, v) = (key, v) := if_neg hlogic
    rw [hentry]
    exact set_mapLogic_of_ne hlogic _ a v

theorem Attributes.setAll_shipped (a : Attributes) (entries : List (String × Value)) :
    (a.mapLogic (Program.shipped choose)).setAll (entries.map (Value.entryShipped choose)) =
      ((a.setAll entries).1.mapLogic (Program.shipped choose), (a.setAll entries).2) := by
  induction entries generalizing a with
  | nil => rfl
  | cons e rest ih =>
    obtain ⟨key, v⟩ := e
    have hset := set_shipped hchoose a key v
    have hkey : (Value.entryShipped choose (key, v)).1 = key := by
      unfold Value.entryShipped
      split <;> rfl
    have hpair : Value.entryShipped choose (key, v) = (key, (Value.entryShipped choose (key, v)).2) :=
      Prod.ext hkey rfl
    rw [List.map_cons, hpair]
    simp only [setAll, hset]
    cases a.set key v with
    | ok a' => simp only [Except.map, ih]
    | error e => simp only [Except.map, ih]

/-- Along the reader: a node is read as itself with its programs shipped, and so are the elements of a
    node whose attributes were read so. -/
theorem Descriptor.readNode_shipped (above : List Tag) (v : Value) :
    readNode above (v.shipped choose) =
      (readNode above v).map fun r => (r.1.mapLogic (Program.shipped choose), r.2) := by
  induction above, v using fun motive => readNode.induct motive fun path tag index a items =>
    readItems path tag index (a.mapLogic (Program.shipped choose)) (Value.shippedItems choose items) =
      (readItems path tag index a items).mapLogic (Program.shipped choose) with
  | case1 above name items tag htag path ih =>
    have hnode := Body.toNode_mapLogic (Program.shipped choose)
      (readItems path tag 1 Attributes.none items) path tag
    have hnone : Attributes.none.mapLogic (Program.shipped choose) = Attributes.none := rfl
    rw [hnone] at ih
    simp only [Value.shipped, Value.shippedItems, readNode, htag]
    rw [ih, hnode]
    rfl
  | case2 above name items htag => simp [Value.shipped, Value.shippedItems, readNode, htag, Except.map]
  | case3 above v tail hv =>
    cases v with
    | string name => exact absurd rfl (hv name)
    | _ => rfl
  | case4 above => rfl
  | case5 above v hnamed hlist hempty =>
    cases v with
    | list items =>
      cases items with
      | nil => exact absurd rfl hempty
      | cons v tail => exact absurd rfl (hlist v tail)
    | _ => rfl
  | case6 path tag index a => rfl
  | case7 path tag index a rest entries a' faults hset ih =>
    have hentries := Attributes.setAll_shipped hchoose a entries
    rw [hset] at hentries
    simp only [Value.shippedItems, Value.shipped, readItems, hset, hentries, ih]
    rfl
  | case8 path index a rest items kind ih =>
    simp only [Value.shippedItems, Value.shipped, readItems, ih]
    rfl
  | case9 path index a rest items axis child warnings hread ih ihchild =>
    rw [hread] at ihchild
    simp only [Value.shipped, Except.map] at ihchild
    simp only [Value.shippedItems, Value.shipped, readItems, hread, ih, ihchild]
    rfl
  | case10 path index a rest items axis e hread ih ihchild =>
    rw [hread] at ihchild
    simp only [Value.shipped, Except.map] at ihchild
    simp only [Value.shippedItems, Value.shipped, readItems, hread, ih, ihchild]
    rfl
  | case11 path tag index a rest v hmap hlist ih =>
    cases v with
    | map entries => exact absurd rfl (hmap entries)
    | list items => exact absurd rfl (hlist items)
    | _ =>
      simp only [Value.shippedItems, Value.shipped, readItems, ih]
      rfl

end

/-! ### The text form of a description -/

namespace Descriptor

mutual

theorem mapLogic_mapLogic (f g : Program → Program) :
    ∀ d : Descriptor, (d.mapLogic f).mapLogic g = d.mapLogic (g ∘ f)
  | .leaf kind a => by simp [mapLogic, Attributes.mapLogic]
  | .container axis name children => by simp [mapLogic, mapLogicAll_mapLogicAll f g children]

theorem mapLogicAll_mapLogicAll (f g : Program → Program) :
    ∀ ds : List Descriptor, mapLogicAll g (mapLogicAll f ds) = mapLogicAll (g ∘ f) ds
  | [] => rfl
  | d :: rest => by simp [mapLogicAll, mapLogic_mapLogic f g d, mapLogicAll_mapLogicAll f g rest]

end

/-- Shipped or not, the programs of a description have the same text forms. -/
theorem inText_shipped (choose : String → Bool) (d : Descriptor) :
    (d.mapLogic (Program.shipped choose)).mapLogic Program.inText = d.mapLogic Program.inText := by
  have hform : Program.inText ∘ Program.shipped choose = Program.inText :=
    funext (Program.inText_shipped choose)
  rw [mapLogic_mapLogic, hform]

end Descriptor
end ScriptBridge
