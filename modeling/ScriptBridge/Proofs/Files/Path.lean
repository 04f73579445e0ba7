/-
  ScriptBridge/Proofs/Files/Path.lean
  ===================================
  **Where a path read from a directory leads.**

  Segments are taken apart at slashes, so the segments of a joined path are those
  of the directory and those of the path, with nothing in between that counts.
  What counts is the trail of a path: its components without the dot that it may
  start with.  The trail of a joined path is the trail of the directory followed
  by that of the path (`trail_join`).
-/
import ScriptBridge.Files.Path
import Mathlib.Data.List.Basic

namespace ScriptBridge.Path

/-! ### Segments -/

theorem split_ne_nil (cs : List Char) : split cs ≠ [] := by
  cases cs with
  | nil => simp [split]
  | cons c cs =>
    unfold split
    split
    · simp
    · split <;> simp

theorem split_append_slash (cs ds : List Char) : split (cs ++ '/' :: ds) = split cs ++ split ds := by
  induction cs with
  | nil => simp [split]
  | cons c cs ih =>
    simp only [List.cons_append, split]
    by_cases hc : c = '/'
    · simp [hc, ih]
    · obtain ⟨segment, rest, hcs⟩ := List.exists_cons_of_ne_nil (split_ne_nil cs)
      simp [hc, ih, hcs]

theorem slash_not_mem_of_mem_split {cs segment : List Char} (h : segment ∈ split cs) :
    '/' ∉ segment := by
  induction cs generalizing segment with
  | nil => simp_all [split]
  | cons c cs ih =>
    obtain ⟨first, rest, hcs⟩ := List.exists_cons_of_ne_nil (split_ne_nil cs)
    simp only [split, hcs] at h
    rw [hcs] at ih
    by_cases hc : c = '/'
    · rw [if_pos hc] at h
      rcases List.mem_cons.mp h with rfl | h
      · simp
      · exact ih h
    · rw [if_neg hc] at h
      rcases List.mem_cons.mp h with rfl | h
      · simpa [Ne.symm hc] using ih (List.mem_cons_self ..)
      · exact ih (List.mem_cons_of_mem _ h)

theorem segments_ne_nil (path : String) : segments path ≠ [] := by
  simp [segments, split_ne_nil]

theorem segments_append_slash (base path : String) :
    segments (base ++ "/" ++ path) = segments base ++ segments path := by
  have hcs : (base ++ "/" ++ path).toList = base.toList ++ '/' :: path.toList := by simp
  rw [segments, hcs, split_append_slash, List.map_append]
  rfl

theorem slash_not_mem_of_mem_segments {path segment : String} (h : segment ∈ segments path) :
    '/' ∉ segment.toList := by
  obtain ⟨cs, hcs, rfl⟩ := List.mem_map.mp h
  rw [String.toList_ofList]
  exact slash_not_mem_of_mem_split hcs

/-- A path that starts with the root has nothing before its first slash. -/
theorem head?_segments_of_isAbsolute {path : String} (h : isAbsolute path = true) :
    (segments path).head? = some "" := by
  unfold isAbsolute at h
  unfold segments
  cases hcs : path.toList with
  | nil => simp [hcs] at h
  | cons c cs =>
    have hc : c = '/' := by simpa [hcs] using h
    simp [split, hc]

/-! ### Components -/

/-- A component that names an entry of a directory. -/
def Component.Ordinary (c : Component) : Prop :=
  ∃ name, c = .named name ∧ name ≠ "" ∧ name ≠ "." ∧ name ≠ ".." ∧ '/' ∉ name.toList

theorem Component.of_mem_ofSegment {segment : String} {c : Component} (h : c ∈ ofSegment segment)
    (hslash : '/' ∉ segment.toList) : (c = .parent ∧ segment = "..") ∨ c.Ordinary := by
  unfold ofSegment at h
  split at h
  · cases h
  · split at h
    · cases h
    · split at h
      · next hparent => exact Or.inl ⟨List.mem_singleton.mp h, hparent⟩
      · next hempty hdot hparent =>
        exact Or.inr ⟨segment, List.mem_singleton.mp h, hempty, hdot, hparent, hslash⟩

/-- The components of a path that lead somewhere. -/
def trail (path : String) : List Component := (components path).filter (· ≠ .current)

theorem filter_current_flatMap (segments : List String) :
    (segments.flatMap Component.ofSegment).filter (· ≠ .current) =
      segments.flatMap Component.ofSegment := by
  rw [List.filter_eq_self]
  intro c hc
  obtain ⟨segment, -, hc⟩ := List.mem_flatMap.mp hc
  unfold Component.ofSegment at hc
  grind

/-- The first segment of a path is a segment like any other, the root and a leading dot apart. -/
theorem trail_eq (path : String) :
    trail path = (if isAbsolute path then [.root] else []) ++
      (segments path).flatMap Component.ofSegment := by
  obtain ⟨first, rest, hsegments⟩ := List.exists_cons_of_ne_nil (segments_ne_nil path)
  simp only [trail, components, hsegments, List.filter_append, filter_current_flatMap,
    List.flatMap_cons]
  by_cases habs : isAbsolute path = true
  · have hfirst : first = "" := by
      simpa [hsegments] using head?_segments_of_isAbsolute habs
    simp [habs, hfirst, Component.ofSegment]
  · by_cases hdot : first = "."
    · simp [habs, hdot, Component.ofSegment]
    · have hfirst : (Component.ofSegment first).filter (· ≠ .current) = Component.ofSegment first := by
        simpa using filter_current_flatMap [first]
      simp only [habs, hdot, if_false, List.nil_append, Bool.false_eq_true]
      rw [hfirst]

/-! ### Paths that stay below a directory -/

/-- A relative path that leads to no directory above. -/
structure Descends (path : String) : Prop where
  relative : isAbsolute path = false
  noParent : .parent ∉ components path

theorem Descends.parent_not_mem_segments {path : String} (h : Descends path) :
    ".." ∉ segments path := by
  intro hmem
  refine h.noParent (List.mem_of_mem_filter (p := (· ≠ .current)) ?_)
  change Component.parent ∈ trail path
  rw [trail_eq]
  refine List.mem_append_right _ (List.mem_flatMap.mpr ⟨"..", hmem, ?_⟩)
  simp [Component.ofSegment]

/-- Such a path leads from name to name. -/
theorem Descends.ordinary {path : String} (h : Descends path) {c : Component} (hc : c ∈ trail path) :
    c.Ordinary := by
  rw [trail_eq, h.relative] at hc
  obtain ⟨segment, hsegment, hc⟩ := List.mem_flatMap.mp (by simpa using hc)
  rcases Component.of_mem_ofSegment hc (slash_not_mem_of_mem_segments hsegment) with ⟨-, rfl⟩ | hname
  · exact absurd hsegment h.parent_not_mem_segments
  · exact hname

/-! ### Joining -/

/-- The three forms of a path read from a directory: the directory is empty, ends with a slash, or
    does not. -/
theorem join_cases (base : String) {path : String} (h : isAbsolute path = false) :
    (base = "" ∧ join base path = path) ∨
    (∃ stem, base = stem ++ "/" ++ "" ∧ join base path = stem ++ "/" ++ path) ∨
    (base ≠ "" ∧ join base path = base ++ "/" ++ path) := by
  unfold join
  rw [h, if_neg (by simp)]
  by_cases hempty : base = ""
  · exact Or.inl ⟨hempty, if_pos hempty⟩
  · rw [if_neg hempty]
    by_cases hslash : base.toList.getLast? = some '/'
    · obtain ⟨cs, hcs⟩ := List.getLast?_eq_some_iff.mp hslash
      have hstem : base = String.ofList cs ++ "/" := String.toList_inj.mp (by simp [hcs])
      refine Or.inr (Or.inl ⟨String.ofList cs, ?_, ?_⟩)
      · rw [String.append_empty]
        exact hstem
      · rw [if_pos hslash, hstem]
    · exact Or.inr (Or.inr ⟨hempty, if_neg hslash⟩)

theorem isAbsolute_append {base : String} (h : base ≠ "") (path : String) :
    isAbsolute (base ++ path) = isAbsolute base := by
  have hcs : base.toList ≠ [] := by simpa using h
  obtain ⟨c, cs, hcs⟩ := List.exists_cons_of_ne_nil hcs
  simp [isAbsolute, hcs]

theorem segments_empty : segments "" = [""] := by decide

/-- Where the joined path leads: first where the directory does, then where the path does. -/
theorem trail_join (base : String) {path : String} (h : isAbsolute path = false) :
    trail (join base path) = trail base ++ trail path := by
  have hpath : trail path = (segments path).flatMap Component.ofSegment := by
    rw [trail_eq, h]
    rfl
  rw [hpath]
  rcases join_cases base h with ⟨rfl, hjoin⟩ | ⟨stem, rfl, hjoin⟩ | ⟨hbase, hjoin⟩
  · rw [hjoin, hpath]
    rfl
  · have hstem : stem ++ "/" ≠ "" := by simp
    have habs : isAbsolute (stem ++ "/" ++ path) = isAbsolute (stem ++ "/" ++ "") := by
      rw [isAbsolute_append hstem path, isAbsolute_append hstem ""]
    rw [hjoin, trail_eq, trail_eq, habs, segments_append_slash, segments_append_slash, segments_empty]
    simp [Component.ofSegment]
  · have habs : isAbsolute (base ++ "/" ++ path) = isAbsolute base := by
      rw [String.append_assoc, isAbsolute_append hbase]
    rw [hjoin, trail_eq, trail_eq, habs, segments_append_slash]
    simp

example : trail (join "/srv/assets/" "./ui//..a/...") =
    [.root, .named "srv", .named "assets", .named "ui", .named "..a", .named "..."] := by decide

end ScriptBridge.Path
