/-
  ScriptBridge/Proofs/Descriptor/Logic.lean
  =========================================
  **No description carries a blank logic.**

  A program is only ever read from a value, and a blank one reads as none.  A
  later blank logic takes an earlier one back, so at every leaf of a description
  that was read, whatever logic is left has something to run.
-/
import ScriptBridge.Descriptor.Reader

namespace ScriptBridge

/-- The program has nothing to run. -/
def Program.isBlank : Program → Bool
  | .source text => Text.isBlank text
  | .bytes octets => octets.isEmpty

theorem Program.Logic.isBlank_of_present {v : Value} {program : Program}
    (h : Logic.ofValue v = .present program) : program.isBlank = false := by
  unfold Logic.ofValue at h
  split at h
  · cases h
  · split at h
    · cases h
    · next hblank =>
      cases h
      exact Bool.eq_false_iff.mpr hblank
  · split at h
    · cases h
    · next hempty =>
      cases h
      exact Bool.eq_false_iff.mpr hempty
  · cases h

/-- If there is a logic, it has something to run. -/
def Runnable (logic : Option Program) : Prop := ∀ program, logic = some program → program.isBlank = false

theorem runnable_none : Runnable none := fun _ h => by cases h

/-! ### Reading attributes -/

theorem Attributes.runnable_set {a a' : Attributes} {key : String} {v : Value}
    (ha : Runnable a.logic) (h : a.set key v = .ok a') : Runnable a'.logic := by
  simp only [Attributes.set] at h
  split at h
  · split at h <;> cases h
    exact ha
  split at h
  · split at h <;> cases h <;> exact ha
  split at h
  · split at h <;> cases h
    exact ha
  split at h
  · split at h
    · cases h
      exact runnable_none
    · next hv =>
      cases h
      intro program hprogram
      cases hprogram
      exact Program.Logic.isBlank_of_present hv
    · cases h
  split at h
  · split at h <;> cases h
    exact ha
  · cases h

theorem Attributes.runnable_setAll {a : Attributes} (ha : Runnable a.logic)
    (entries : List (String × Value)) : Runnable (a.setAll entries).1.logic := by
  induction entries generalizing a with
  | nil => exact ha
  | cons e rest ih =>
    obtain ⟨key, v⟩ := e
    unfold Attributes.setAll
    split
    · next hset => exact ih (Attributes.runnable_set ha hset)
    · exact ih ha

/-! ### Reading descriptions -/

/-- Every leaf of the description has no logic, or one with something to run. -/
inductive Descriptor.Runs : Descriptor → Prop where
  | leaf {kind : WidgetKind} {a : Attributes} (ha : Runnable a.logic) : Runs (.leaf kind a)
  | container {axis : Axis} {name : Option String} {children : List Descriptor}
      (hchildren : ∀ d ∈ children, Runs d) : Runs (.container axis name children)

namespace Descriptor

theorem Runs.runnable {kind : WidgetKind} {a : Attributes} (h : (Descriptor.leaf kind a).Runs) :
    Runnable a.logic := by
  cases h with
  | leaf ha => exact ha

theorem Runs.children {axis : Axis} {name : Option String} {children : List Descriptor}
    (h : (Descriptor.container axis name children).Runs) : ∀ d ∈ children, d.Runs := by
  cases h with
  | container hchildren => exact hchildren

/-- The elements of a node keep what its attributes and children must satisfy. -/
structure Body.Runs (body : Body) : Prop where
  attributes : Runnable body.attributes.logic
  children : ∀ d ∈ body.children, d.Runs

theorem Body.Runs.toNode {body : Body} (h : body.Runs) (path : List Tag) (tag : Tag) :
    (body.toNode path tag).1.Runs := by
  cases tag with
  | leaf kind => exact .leaf h.attributes
  | container axis => exact .container h.children

/-- Along the reader: a node runs, and so do the elements of a node whose attributes do so far. -/
theorem runs_readNode (above : List Tag) (v : Value) :
    ∀ d warnings, readNode above v = .ok (d, warnings) → d.Runs := by
  induction above, v using fun motive => readNode.induct motive fun path tag index a items =>
    Runnable a.logic → (readItems path tag index a items).Runs with
  | case1 above name items tag htag path ih =>
    intro d warnings h
    have hnode := (ih runnable_none).toNode path tag
    simp only [readNode, htag] at h
    rw [Except.ok.inj h] at hnode
    exact hnode
  | case2 above name items htag => simp [readNode, htag]
  | case3 above v tail hv =>
    intro d warnings h
    unfold readNode at h
    split at h
    · next hname => exact absurd (List.cons.inj (Value.list.inj hname)).1 (hv _)
    all_goals cases h
  | case4 above => simp [readNode]
  | case5 above v h1 h2 h3 => simp [readNode]
  | case6 path tag index a ha => exact ⟨ha, fun _ hd => by cases hd⟩
  | case7 path tag index a rest entries a' faults hset ih ha =>
    have hrest := ih (by simpa [hset] using Attributes.runnable_setAll ha entries)
    simp only [readItems, hset]
    exact ⟨hrest.attributes, hrest.children⟩
  | case8 path index a rest items kind ih ha =>
    simp only [readItems]
    exact ⟨(ih ha).attributes, (ih ha).children⟩
  | case9 path index a rest items axis child warnings hread ih ihchild ha =>
    simp only [readItems, hread]
    refine ⟨(ih ha).attributes, fun d hd => ?_⟩
    rcases List.mem_cons.mp hd with rfl | hd
    · exact ihchild _ _ hread
    · exact (ih ha).children d hd
  | case10 path index a rest items axis e hread ih ihchild ha =>
    simp only [readItems, hread]
    exact ⟨(ih ha).attributes, (ih ha).children⟩
  | case11 path tag index a rest v hmap hlist ih ha =>
    simp only [readItems]
    exact ⟨(ih ha).attributes, (ih ha).children⟩

theorem runs_ofValue {v d : _} {warnings : List Warning} (h : ofValue v = .ok (d, warnings)) :
    d.Runs := runs_readNode [] v d warnings h

end Descriptor
end ScriptBridge
