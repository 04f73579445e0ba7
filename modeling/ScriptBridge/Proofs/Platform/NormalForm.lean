/-
  ScriptBridge/Proofs/Platform/NormalForm.lean
  ============================================
  **Recordings up to the names of their widgets.**

  Numbering widgets by first appearance renames them: the number of a widget is
  its place among the widgets that appear (`normalizeWidgets_eq_map`), although
  the numbers are given out while the events are read and some of them may be ids
  that come later.  Words suffice for the numbers, so different widgets stay
  different.

  An injective renaming moves places with the widgets, so it leaves no trace in
  the numbers (`normalizeWidgets_map_rename`).  Hence the normal recordings are
  canonical: `normal_form_canonical`.
-/
import Mathlib.Data.Fintype.Card
import Mathlib.Data.Set.Finite.Basic
import Mathlib.Logic.Equiv.Fintype
import ScriptBridge.Number.Word
import ScriptBridge.Platform.Normal

namespace ScriptBridge

/-! ### Renaming -/

namespace PlatformEvent

variable {e : PlatformEvent} {f g : WidgetId → WidgetId}

/-- The event with its widget renamed. -/
def rename (f : WidgetId → WidgetId) (e : PlatformEvent) : PlatformEvent :=
  match e.widget? with
  | some id => e.withWidget (f id)
  | none => e

theorem widget?_rename (f : WidgetId → WidgetId) (e : PlatformEvent) :
    (e.rename f).widget? = e.widget?.map f := by
  cases e <;> rfl

/-- Renaming changes nothing but the widget. -/
theorem withWidget_rename (f : WidgetId → WidgetId) (e : PlatformEvent) (id : WidgetId) :
    (e.rename f).withWidget id = e.withWidget id := by
  cases e <;> rfl

theorem rename_rename (f g : WidgetId → WidgetId) (e : PlatformEvent) :
    (e.rename f).rename g = e.rename (g ∘ f) := by
  cases e <;> rfl

theorem rename_id (e : PlatformEvent) : e.rename id = e := by
  cases e <;> rfl

theorem rename_congr (h : ∀ id, e.widget? = some id → f id = g id) : e.rename f = e.rename g := by
  unfold rename
  split
  · next id hid => rw [h id hid]
  · rfl

end PlatformEvent

open PlatformEvent

/-- The widgets that events are about, one for each event about a widget. -/
def widgetsOf (events : List PlatformEvent) : List WidgetId := events.filterMap PlatformEvent.widget?

/-- The widgets that events are about, in the order in which they first appear. -/
def firstWidgets (events : List PlatformEvent) : List WidgetId := (widgetsOf events).eraseDups

variable {events : List PlatformEvent} {f g : WidgetId → WidgetId}

theorem widgetsOf_map_rename (f : WidgetId → WidgetId) (events : List PlatformEvent) :
    widgetsOf (events.map (rename f)) = (widgetsOf events).map f := by
  rw [widgetsOf, widgetsOf, List.filterMap_map, List.map_filterMap]
  exact List.filterMap_congr fun e _ => widget?_rename f e

theorem map_rename_congr (h : Set.EqOn f g { id | id ∈ widgetsOf events }) :
    events.map (rename f) = events.map (rename g) := by
  refine List.map_congr_left fun e he => rename_congr fun id hid => h ?_
  exact List.mem_filterMap.mpr ⟨e, he, hid⟩

theorem map_rename_rename (f g : WidgetId → WidgetId) (events : List PlatformEvent) :
    (events.map (rename f)).map (rename g) = events.map (rename (g ∘ f)) := by
  rw [List.map_map]
  exact List.map_congr_left fun e _ => rename_rename f g e

/-! ### Lists without repetitions -/

theorem nodup_eraseDups {α : Type} [BEq α] [LawfulBEq α] (l : List α) : l.eraseDups.Nodup := by
  induction h : l.length using Nat.strong_induction_on generalizing l with
  | _ n ih =>
    cases l with
    | nil => exact List.nodup_nil
    | cons a rest =>
      rw [List.eraseDups_cons, List.nodup_cons]
      have hshorter := List.length_filter_le (fun b => !b == a) rest
      rw [List.length_cons] at h
      exact ⟨by simp, ih _ (by omega) _ rfl⟩

/-- An injective function keeps the order of first appearance. -/
theorem eraseDups_map_of_injOn {α β : Type} [DecidableEq α] [DecidableEq β] {f : α → β} {l : List α}
    (hf : Set.InjOn f { a | a ∈ l }) : (l.map f).eraseDups = l.eraseDups.map f := by
  induction h : l.length using Nat.strong_induction_on generalizing l with
  | _ n ih =>
    cases l with
    | nil => rfl
    | cons a rest =>
      have hshorter := List.length_filter_le (fun b => !b == a) rest
      rw [List.length_cons] at h
      have hsame : (rest.map f).filter (fun b => !b == f a) =
          (rest.filter fun b => !b == a).map f := by
        rw [List.filter_map]
        refine congrArg (List.map f) (List.filter_congr fun b hb => ?_)
        have hiff : f b = f a ↔ b = a :=
          hf.eq_iff (List.mem_cons_of_mem a hb) List.mem_cons_self
        simp [hiff]
      have hrest : Set.InjOn f { b | b ∈ rest.filter fun b => !b == a } :=
        hf.mono fun b hb => List.mem_cons_of_mem a (List.mem_of_mem_filter hb)
      rw [List.map_cons, List.eraseDups_cons, List.eraseDups_cons, List.map_cons, hsame,
        ih _ (by omega) hrest rfl]

theorem idxOf_map_of_injOn {α β : Type} [DecidableEq α] [DecidableEq β] {f : α → β} {l : List α}
    (hf : Set.InjOn f { a | a ∈ l }) {a : α} (ha : a ∈ l) : (l.map f).idxOf (f a) = l.idxOf a := by
  induction l with
  | nil => exact absurd ha List.not_mem_nil
  | cons b rest ih =>
    rw [List.map_cons]
    by_cases hba : b = a
    · rw [hba, List.idxOf_cons_self, List.idxOf_cons_self]
    · have hne : f b ≠ f a := mt (hf.eq_iff List.mem_cons_self ha).mp hba
      have hrest : a ∈ rest := (List.mem_cons.mp ha).resolve_left (Ne.symm hba)
      have hinj : Set.InjOn f { c | c ∈ rest } := hf.mono fun c hc => List.mem_cons_of_mem b hc
      rw [List.idxOf_cons_ne _ hne, List.idxOf_cons_ne _ hba, ih hinj hrest]

/-! ### Numbers -/

/-- The ids noted after some others are those that were not seen yet, without repetitions. -/
theorem foldl_noteWidget (seen ids : List WidgetId) :
    ids.foldl noteWidget seen = seen ++ (ids.filter fun id => id ∉ seen).eraseDups := by
  induction ids generalizing seen with
  | nil => simp
  | cons id rest ih =>
    rw [List.foldl_cons, ih, noteWidget]
    by_cases hid : id ∈ seen
    · simp [hid]
    · simp only [hid, if_false, List.filter_cons, not_false_eq_true, decide_true, if_true,
        List.eraseDups_cons, List.append_assoc, List.singleton_append, List.filter_filter]
      congr 3
      refine List.filter_congr fun b _ => ?_
      by_cases hb : b = id <;> simp [hb, hid]

theorem mem_noteWidget (seen : List WidgetId) (id : WidgetId) : id ∈ noteWidget seen id := by
  unfold noteWidget
  split
  · next h => exact h
  · exact List.mem_append_right seen (List.mem_singleton_self id)

theorem widgetNumber_append {seen : List WidgetId} {id : WidgetId} (h : id ∈ seen)
    (more : List WidgetId) : widgetNumber (seen ++ more) id = widgetNumber seen id := by
  rw [widgetNumber, widgetNumber, List.idxOf_append_of_mem h]

/-- The number that a widget gets when it is first seen is the one that it has in the end. -/
theorem normalizeFrom_eq_map (seen : List WidgetId) (events : List PlatformEvent) :
    normalizeFrom seen events =
      events.map (rename (widgetNumber ((widgetsOf events).foldl noteWidget seen))) := by
  induction events generalizing seen with
  | nil => rfl
  | cons e rest ih =>
    rw [normalizeFrom, List.map_cons, rename, widgetsOf]
    cases he : e.widget? with
    | none =>
      rw [List.filterMap_cons_none he]
      exact congrArg (e :: ·) (ih seen)
    | some id =>
      rw [List.filterMap_cons_some he, List.foldl_cons]
      have hnumber : widgetNumber (noteWidget seen id) id =
          widgetNumber ((widgetsOf rest).foldl noteWidget (noteWidget seen id)) id := by
        rw [foldl_noteWidget, widgetNumber_append (mem_noteWidget seen id)]
      exact congrArg₂ (e.withWidget · :: ·) hnumber (ih _)

/-- Numbering renames every widget to its place among the widgets that appear. -/
theorem normalizeWidgets_eq_map (events : List PlatformEvent) :
    normalizeWidgets events = events.map (rename (widgetNumber (firstWidgets events))) := by
  rw [normalizeWidgets, normalizeFrom_eq_map, foldl_noteWidget]
  simp [firstWidgets]

/-- There are no more different ids than words. -/
theorem length_le_of_nodup {ids : List WidgetId} (h : ids.Nodup) : ids.length ≤ UInt64.size := by
  have hword : Function.Injective fun id : WidgetId => id.toBitVec.toFin := by
    intro id id' heq
    exact Int64.toBitVec_inj.mp (BitVec.toFin_inj.mp heq)
  have hlength := (h.map hword).length_le_card
  rw [List.length_map, Fintype.card_fin] at hlength
  exact hlength

theorem widgetNumber_injOn {ids : List WidgetId} (h : ids.Nodup) :
    Set.InjOn (widgetNumber ids) { id | id ∈ ids } := by
  intro id hid id' hid' heq
  have hlength : ids.length ≤ 18446744073709551616 := length_le_of_nodup h
  have hindex := List.idxOf_lt_length_iff.mpr hid
  have hindex' := List.idxOf_lt_length_iff.mpr hid'
  have hwords : (ids.idxOf id + 1) % 18446744073709551616 =
      (ids.idxOf id' + 1) % 18446744073709551616 :=
    congrArg (fun number : WidgetId => number.toBitVec.toNat) heq
  exact (List.idxOf_inj hid).mp (by omega)

/-- What the numbers of widgets without repetitions are, one after the other. -/
theorem map_widgetNumber {ids : List WidgetId} (h : ids.Nodup) :
    ids.map (widgetNumber ids) = (List.range ids.length).map fun i => Int64.ofNat (i + 1) := by
  refine List.ext_getElem (by simp) fun i hi _ => ?_
  rw [List.length_map] at hi
  rw [List.getElem_map, List.getElem_map, List.getElem_range, widgetNumber, h.idxOf_getElem]

/-! ### Canonical recordings -/

/-- An injective renaming of the widgets that appear leaves no trace. -/
theorem normalizeWidgets_map_rename (hf : Set.InjOn f { id | id ∈ widgetsOf events }) :
    normalizeWidgets (events.map (rename f)) = normalizeWidgets events := by
  have hfirst : firstWidgets (events.map (rename f)) = (firstWidgets events).map f := by
    rw [firstWidgets, widgetsOf_map_rename, eraseDups_map_of_injOn hf, firstWidgets]
  have hfirsts : Set.InjOn f { id | id ∈ firstWidgets events } :=
    hf.mono fun id hid => List.mem_eraseDups.mp hid
  rw [normalizeWidgets_eq_map, normalizeWidgets_eq_map, map_rename_rename, hfirst]
  refine map_rename_congr fun id hid => ?_
  rw [Function.comp_apply, widgetNumber, idxOf_map_of_injOn hfirsts (List.mem_eraseDups.mpr hid),
    widgetNumber]

theorem numbered_injOn (events : List PlatformEvent) :
    Set.InjOn (widgetNumber (firstWidgets events)) { id | id ∈ widgetsOf events } :=
  (widgetNumber_injOn (nodup_eraseDups (widgetsOf events))).mono fun _ hid => List.mem_eraseDups.mpr hid

/-- An injective renaming of the widgets that appear is part of one of all widgets. -/
theorem exists_perm_eqOn (hf : Set.InjOn f { id | id ∈ widgetsOf events }) :
    ∃ π : Equiv.Perm WidgetId, Set.EqOn f π { id | id ∈ widgetsOf events } := by
  classical
  have hfinite : Finite { id | id ∈ { id | id ∈ widgetsOf events } } := List.finite_toSet _
  exact ⟨(Equiv.Set.imageOfInjOn f _ hf).extendSubtype, fun id hid =>
    ((Equiv.Set.imageOfInjOn f _ hf).extendSubtype_apply_of_mem id hid).symm⟩

/-- Numbering is a renaming of all widgets, one to one. -/
theorem exists_perm_normalizeWidgets (events : List PlatformEvent) :
    ∃ π : Equiv.Perm WidgetId, normalizeWidgets events = events.map (rename π) := by
  obtain ⟨π, hπ⟩ := exists_perm_eqOn (numbered_injOn events)
  exact ⟨π, (normalizeWidgets_eq_map events).trans (map_rename_congr hπ)⟩

/-- Recordings with the same normal form have the same widgets under other names. -/
theorem exists_perm_of_normalizeWidgets_eq {others : List PlatformEvent}
    (h : normalizeWidgets others = normalizeWidgets events) :
    ∃ π : Equiv.Perm WidgetId, others = events.map (rename π) := by
  obtain ⟨π, hπ⟩ := exists_perm_normalizeWidgets events
  obtain ⟨ρ, hρ⟩ := exists_perm_normalizeWidgets others
  -- From the events to their normal form, and back to the others.
  refine ⟨π.trans ρ.symm, ?_⟩
  calc others
      = others.map (rename id) := by rw [funext rename_id, List.map_id']
    _ = (others.map (rename ρ)).map (rename ρ.symm) := by
        rw [map_rename_rename, Equiv.symm_comp_self]
    _ = events.map (rename (π.trans ρ.symm)) := by
        rw [← hρ, h, hπ, map_rename_rename, Equiv.coe_trans]

theorem firstWidgets_normalizeWidgets (events : List PlatformEvent) :
    firstWidgets (normalizeWidgets events) =
      (List.range (firstWidgets events).length).map fun i => Int64.ofNat (i + 1) := by
  rw [normalizeWidgets_eq_map, firstWidgets, widgetsOf_map_rename,
    eraseDups_map_of_injOn (numbered_injOn events)]
  exact map_widgetNumber (nodup_eraseDups (widgetsOf events))

theorem length_firstWidgets (events : List PlatformEvent) :
    (firstWidgets events).length = (widgetsOf events).toFinset.card := by
  have hcard := List.toFinset_card_of_nodup (nodup_eraseDups (widgetsOf events))
  rw [firstWidgets, ← hcard]
  congr 1
  ext id
  simp

/-- Numbering widgets by first appearance gives a canonical form.  There are as many events as before,
    in the same order, and nothing but their widgets has changed; these were renamed one to one.  The
    widgets of the normal form, in the order in which they first appear, are the words from one to the
    number of different widgets.  Numbering again changes nothing, nor does an injective renaming before
    numbering, and two recordings have the same normal form exactly when one is the other under a
    one-to-one renaming of widgets. -/
theorem normal_form_canonical (events : List PlatformEvent) :
    let normal := normalizeWidgets events
    let k := (widgetsOf events).toFinset.card
    normal.length = events.length ∧
    (∀ id, normal.map (withWidget id) = events.map (withWidget id)) ∧
    (∃ π : Equiv.Perm WidgetId, normal = events.map (rename π)) ∧
    firstWidgets normal = ((List.range k).map fun i => Int64.ofNat (i + 1)) ∧
    ((k : Int) ≤ Word.greatest →
      (firstWidgets normal).map Int64.toInt = (List.range k).map fun i : Nat => (i : Int) + 1) ∧
    normalizeWidgets normal = normal ∧
    (∀ f, Set.InjOn f { id | id ∈ widgetsOf events } →
      normalizeWidgets (events.map (rename f)) = normal) ∧
    (∀ others, normalizeWidgets others = normal ↔
      ∃ π : Equiv.Perm WidgetId, others = events.map (rename π)) := by
  intro normal k
  obtain ⟨π, hπ⟩ := exists_perm_normalizeWidgets events
  have hnumbers : firstWidgets normal = (List.range k).map fun i => Int64.ofNat (i + 1) := by
    rw [firstWidgets_normalizeWidgets, length_firstWidgets]
  refine ⟨?_, ?_, ⟨π, hπ⟩, hnumbers, ?_, ?_, fun f hf => normalizeWidgets_map_rename hf, ?_⟩
  · change (normalizeWidgets events).length = _
    rw [hπ, List.length_map]
  · intro id
    change (normalizeWidgets events).map _ = _
    rw [hπ, List.map_map]
    exact List.map_congr_left fun e _ => withWidget_rename π e id
  · intro hwords
    rw [hnumbers, List.map_map]
    refine List.map_congr_left fun i hi => ?_
    have hlast := List.mem_range.mp hi
    have hword : (k : Int) ≤ 9223372036854775807 := hwords
    exact Int64.toInt_ofNat_of_lt (by omega)
  · change normalizeWidgets (normalizeWidgets events) = _
    rw [hπ, normalizeWidgets_map_rename π.injective.injOn]
  · intro others
    constructor
    · exact exists_perm_of_normalizeWidgets_eq
    · rintro ⟨ρ, rfl⟩
      exact normalizeWidgets_map_rename ρ.injective.injOn

/-- Ids that are numbers of others already, or negative, are told apart all the same. -/
example :
    normalizeWidgets [.setText 2 "a", .place 1 ⟨0, 0, 0, 0⟩, .print "b", .setText (-4) "c", .setText 1 "d"] =
      [.setText 1 "a", .place 2 ⟨0, 0, 0, 0⟩, .print "b", .setText 3 "c", .setText 2 "d"] := by
  decide

end ScriptBridge
