/-
  ScriptBridge/Proofs/Bridge/Mirror.lean
  ======================================
  **The records of a bridge mirror the log of its platform.**

  A recording platform keeps the events since they were last taken.  The history
  of a bridge over it is what was taken so far and what is still held.  `Mirror`
  relates such a history to the records: the widgets with a record are those with
  a creation event, of the same kind; every creation is followed at once by a
  placement; and a record has the frame of the last placement.

  Each effect of an action says how the three change, so they hold after any
  number of actions.  That ids are not handed out twice is what keeps a creation
  from going without a record; a process has 2 ^ 64 of them.
-/
import ScriptBridge.Proofs.Bridge.Callbacks
import ScriptBridge.Proofs.Bridge.Effect
import ScriptBridge.Proofs.Bridge.Numbering

namespace ScriptBridge

open PlatformEvent

/-! ### Creations and their placements -/

/-- Every creation is followed at once by a placement of the same widget. -/
def Followed (history : List PlatformEvent) : Prop :=
  ∀ i e id kind, history[i]? = some e → e.created? = some (id, kind) →
    ∃ frame, history[i + 1]? = some (.place id frame)

namespace Followed

variable {first second new : List PlatformEvent}

theorem of_uncreating (hnew : ∀ e ∈ new, e.created? = none) : Followed new := by
  intro i e id kind he hcreated
  rw [hnew e (List.mem_of_getElem? he)] at hcreated
  cases hcreated

theorem creation {e₀ : PlatformEvent} {id₀ : WidgetId} {kind₀ : WidgetKind}
    (he₀ : e₀.created? = some (id₀, kind₀)) (frame : Frame) : Followed [e₀, .place id₀ frame] := by
  intro i e id kind he hcreated
  match i with
  | 0 =>
    cases he
    cases he₀.symm.trans hcreated
    exact ⟨frame, rfl⟩
  | 1 =>
    cases he
    cases hcreated
  | i + 2 => cases he

theorem append (hfirst : Followed first) (hsecond : Followed second) :
    Followed (first ++ second) := by
  intro i e id kind he hcreated
  by_cases hi : i < first.length
  · rw [List.getElem?_append_left hi] at he
    obtain ⟨frame, hnext⟩ := hfirst i e id kind he hcreated
    have hi' : i + 1 < first.length := (List.getElem?_eq_some_iff.mp hnext).1
    exact ⟨frame, by rwa [List.getElem?_append_left hi']⟩
  · obtain ⟨j, rfl⟩ := Nat.exists_eq_add_of_le (Nat.not_lt.mp hi)
    rw [List.getElem?_append_right (Nat.le_add_right _ _), Nat.add_sub_cancel_left] at he
    obtain ⟨frame, hnext⟩ := hsecond j e id kind he hcreated
    refine ⟨frame, ?_⟩
    rwa [Nat.add_assoc, List.getElem?_append_right (Nat.le_add_right _ _), Nat.add_sub_cancel_left]

end Followed

/-! ### What an effect changes -/

namespace Effect

variable {t t' : WidgetTable} {new : List PlatformEvent}

theorem followed (h : Effect t t' new) : Followed new := by
  cases h with
  | quiet hnew => exact .of_uncreating fun e he => created?_of_widget?_none (hnew e he)
  | build hnone he ht => exact .creation he _
  | place hw hlive frame => exact .of_uncreating (by simp)
  | setText hw hlive htext text => exact .of_uncreating (by simp)
  | destroy hw hlive => exact .of_uncreating (by simp)

/-- The widgets with a record are those from before and the created ones. -/
theorem created_iff (h : Effect t t' new) (id : WidgetId) (kind : WidgetKind) :
    (∃ w, t'.find? id = some w ∧ w.kind = kind) ↔
      (∃ w, t.find? id = some w ∧ w.kind = kind) ∨ ∃ e ∈ new, e.created? = some (id, kind) := by
  cases h with
  | quiet hnew =>
    refine (or_iff_left ?_).symm
    rintro ⟨e, he, hcreated⟩
    rw [created?_of_widget?_none (hnew e he)] at hcreated
    cases hcreated
  | @build _ id₀ e₀ w₀ hnone he₀ ht =>
    have hnew : (∃ e ∈ [e₀, .place id₀ w₀.frame], e.created? = some (id, kind)) ↔
        id₀ = id ∧ w₀.kind = kind := by
      simp [he₀]
    rw [hnew, ht]
    by_cases hid : id₀ = id
    · subst hid
      simp [hnone]
    · simp [hid]
  | place hw hlive frame =>
    refine Iff.trans (WidgetTable.exists_kind_set hw ?_ id kind) (or_iff_left (by simp)).symm
    rfl
  | setText hw hlive htext text => exact (or_iff_left (by simp)).symm
  | destroy hw hlive =>
    refine Iff.trans (WidgetTable.exists_kind_set hw ?_ id kind) (or_iff_left (by simp)).symm
    rfl

/-- A record has the frame that the events give it, or else the one from before. -/
theorem frames (h : Effect t t' new) {id : WidgetId} {w : WidgetRecord} (hw : t'.find? id = some w) :
    lastFrame? id new = some w.frame ∨
      lastFrame? id new = none ∧ ∃ w₀, t.find? id = some w₀ ∧ w₀.frame = w.frame := by
  cases h with
  | quiet hnew =>
    exact Or.inr ⟨lastFrame?_of_others fun e he => by rw [hnew e he]; exact nofun, w, hw, rfl⟩
  | @build _ id₀ e₀ w₀ hnone he₀ ht =>
    rw [ht] at hw
    split at hw
    · next hid =>
      cases hw
      left
      simp [lastFrame?, frameOf?, hid]
    · next hid =>
      refine Or.inr ⟨lastFrame?_of_others fun e he => ?_, w, hw, rfl⟩
      rcases List.mem_cons.mp he with rfl | he
      · rw [widget?_of_created? he₀]
        exact fun heq => hid (Option.some.inj heq)
      · rw [List.mem_singleton.mp he]
        exact fun heq => hid (Option.some.inj heq)
  | @place id₀ w₀ hw₀ hlive frame =>
    rw [WidgetTable.find?_set] at hw
    split at hw
    · next hid =>
      cases hw
      left
      simp [lastFrame?, frameOf?, hid]
    · next hid =>
      right
      exact ⟨by simp [lastFrame?, frameOf?, hid], w, hw, rfl⟩
  | setText hw₀ hlive htext text =>
    right
    exact ⟨by simp [lastFrame?, frameOf?], w, hw, rfl⟩
  | @destroy id₀ w₀ hw₀ hlive =>
    rw [WidgetTable.find?_set] at hw
    split at hw
    · next hid =>
      cases hw
      exact Or.inr ⟨rfl, w₀, hid ▸ hw₀, rfl⟩
    · exact Or.inr ⟨rfl, w, hw, rfl⟩

end Effect

/-! ### The invariant -/

/-- The records say what the events of a history say. -/
structure Mirror (history : List PlatformEvent) (t : WidgetTable) : Prop where
  created_iff : ∀ id kind, (∃ w, t.find? id = some w ∧ w.kind = kind) ↔
    ∃ e ∈ history, e.created? = some (id, kind)
  followed : Followed history
  frames : ∀ id w, t.find? id = some w → lastFrame? id history = some w.frame

namespace Mirror

variable {history new : List PlatformEvent} {t t' : WidgetTable}

theorem empty : Mirror [] .empty where
  created_iff _ _ := by simp
  followed _ _ _ _ h := by cases h
  frames _ _ h := by cases h

theorem append (h : Mirror history t) (heffect : Effect t t' new) : Mirror (history ++ new) t' where
  created_iff id kind := by
    rw [heffect.created_iff, h.created_iff]
    simp [or_and_right, exists_or]
  followed := h.followed.append heffect.followed
  frames id w hw := by
    rw [lastFrame?_append]
    rcases heffect.frames hw with hnew | ⟨hnone, w₀, hw₀, hframe⟩
    · rw [hnew, Option.some_or]
    · rw [hnone, Option.none_or, h.frames id w₀ hw₀, hframe]

end Mirror
end ScriptBridge
