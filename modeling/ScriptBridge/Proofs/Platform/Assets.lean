/-
  ScriptBridge/Proofs/Platform/Assets.lean
  ========================================
  **No asset path leaves the assets directory.**

  A path that descends is read at its place in the directory, and what is found
  there is settled by the node that the directory leads to: the rest of the tree
  may be anything.  Any other path is refused with no look at the tree at all, so
  the answer is the same over every tree.
-/
import ScriptBridge.Platform.Recorder
import ScriptBridge.Proofs.Files.Path
import Mathlib.Logic.Function.Basic

namespace ScriptBridge

/-! ### Following the segments of a joined path -/

namespace FileTree

theorem follow_step (above : List FileTree) (entries : List (String × FileTree)) {segment : String}
    (hempty : segment ≠ "") (hdot : segment ≠ ".") (hparent : segment ≠ "..") (rest : List String) :
    follow above (.directory entries) (segment :: rest) =
      match Assoc.find? segment entries with
      | none => .error .missing
      | some inner => follow (.directory entries :: above) inner rest := by
  cases hfound : Assoc.find? segment entries with
  | none => simp only [follow, hempty, hdot, hparent, or_self, if_false, hfound]
  | some inner => simp only [follow, hempty, hdot, hparent, or_self, if_false, hfound]

theorem follow_file (above : List FileTree) (octets : List UInt8) {segments : List String}
    (h : segments ≠ []) : follow above (.file octets) segments = .error .notDirectory := by
  obtain ⟨segment, rest, rfl⟩ := List.exists_cons_of_ne_nil h
  rfl

theorem follow_empty (above : List FileTree) (node : FileTree) {segments : List String}
    (h : segments ≠ []) : follow above node ("" :: segments) = follow above node segments := by
  cases node with
  | file octets => rw [follow_file above octets h, follow_file above octets (by simp)]
  | directory entries => simp [follow]

/-- Where nothing leads back up, the directories above do not matter. -/
theorem follow_descending {segments : List String} (h : ".." ∉ segments) (above above' : List FileTree)
    (node : FileTree) : follow above node segments = follow above' node segments := by
  induction segments generalizing above above' node with
  | nil => rfl
  | cons segment rest ih =>
    obtain ⟨hparent, hrest⟩ := not_or.mp (List.mem_cons.not.mp h)
    cases node with
    | file octets => rfl
    | directory entries =>
      by_cases hsilent : segment = "" ∨ segment = "."
      · simpa [follow, hsilent] using ih hrest above above' _
      · obtain ⟨hempty, hdot⟩ := not_or.mp hsilent
        rw [follow_step above entries hempty hdot (Ne.symm hparent),
          follow_step above' entries hempty hdot (Ne.symm hparent)]
        cases Assoc.find? segment entries with
        | none => rfl
        | some inner => exact ih hrest _ _ inner

theorem follow_append (first : List String) {second : List String} (h : ".." ∉ second)
    (above : List FileTree) (node : FileTree) :
    follow above node (first ++ second) =
      (follow above node first).bind fun inner => follow [] inner second := by
  induction first generalizing above node with
  | nil => exact follow_descending h above [] node
  | cons segment rest ih =>
    cases node with
    | file octets => rfl
    | directory entries =>
      by_cases hsilent : segment = "" ∨ segment = "."
      · simpa [follow, hsilent] using ih above (.directory entries)
      · obtain ⟨hempty, hdot⟩ := not_or.mp hsilent
        by_cases hparent : segment = ".."
        · subst hparent
          cases above with
          | nil => simpa [follow] using ih [] (.directory entries)
          | cons outer above => simpa [follow] using ih above outer
        · rw [List.cons_append, follow_step above entries hempty hdot hparent,
            follow_step above entries hempty hdot hparent]
          cases Assoc.find? segment entries with
          | none => rfl
          | some inner => exact ih _ inner

/-- The node that a directory's segments lead to; no segment stays at the root. -/
def nodeAt (root : FileTree) (directory : String) : Except ReadError FileTree :=
  follow [] root (Path.segments directory)

/-- What a joined path leads to is found from the directory's node. -/
theorem find_join (root : FileTree) (directory : String) {path : String} (h : Path.Descends path) :
    root.find (Path.join directory path) =
      if Path.join directory path = "" then .error .missing
      else (root.nodeAt directory).bind fun node => follow [] node (Path.segments path) := by
  unfold find
  split
  · rfl
  · have hpath := Path.segments_ne_nil path
    rcases Path.join_cases directory h.relative with ⟨rfl, hjoin⟩ | ⟨stem, rfl, hjoin⟩ | ⟨-, hjoin⟩
    · rw [hjoin, nodeAt, Path.segments_empty, ← follow_append [""] h.parent_not_mem_segments]
      exact (follow_empty [] root hpath).symm
    · -- The directory ends with a slash: its empty last segment is the one that the path replaces.
      rw [hjoin, nodeAt, Path.segments_append_slash, Path.segments_append_slash, Path.segments_empty,
        ← follow_append _ h.parent_not_mem_segments, List.append_assoc,
        follow_append _ h.parent_not_mem_segments, follow_append]
      · congr 1
        funext node
        exact (follow_empty [] node hpath).symm
      · simpa using h.parent_not_mem_segments
    · rw [hjoin, nodeAt, Path.segments_append_slash,
        follow_append _ h.parent_not_mem_segments]

end FileTree

/-! ### Reading and the image check -/

namespace Recorder

/-- The recorder with its assets in a directory. -/
def withDirectory (r : Recorder) (directory : String) : Recorder :=
  { r with assets := .directory directory }

theorem resolve_of_descends (directory : String) {path : String} (h : Path.Descends path) :
    resolve directory path = .ok (Path.join directory path) := by
  unfold resolve
  rw [if_neg]
  simp [h.relative, h.noParent]

theorem resolve_of_not_descends (directory : String) {path : String} (h : ¬ Path.Descends path) :
    resolve directory path = .error (.outside path) := by
  unfold resolve
  rw [if_pos]
  by_contra hpath
  simp only [Bool.or_eq_true, List.contains_iff_mem, not_or] at hpath
  exact h ⟨by simpa using hpath.1, hpath.2⟩

/-- A function of trees of files looks at one place only: what stands there settles its value. -/
def LooksOnlyAt {α : Type} (place : String) (f : FileTree → α) : Prop :=
  f.FactorsThrough (FileTree.find · place)

/-- A function of trees of files looks only below a directory. -/
def LooksOnlyBelow {α : Type} (directory : String) (f : FileTree → α) : Prop :=
  f.FactorsThrough (FileTree.nodeAt · directory)

theorem LooksOnlyAt.below {α : Type} {directory path : String} {f : FileTree → α}
    (hpath : Path.Descends path) (h : LooksOnlyAt (Path.join directory path) f) :
    LooksOnlyBelow directory f := by
  intro files files' hnode
  apply h
  simp only [FileTree.find_join _ directory hpath]
  simp only at hnode
  rw [hnode]

theorem looksOnlyAt_readText (place : String) : LooksOnlyAt place (FileTree.readText · place) := by
  intro files files' hfind
  simp only at hfind
  simp only [FileTree.readText, FileTree.read]
  rw [hfind]

theorem looksOnlyAt_holdsFile (place : String) : LooksOnlyAt place (FileTree.holdsFile · place) := by
  intro files files' hfind
  simp only at hfind
  simp only [FileTree.holdsFile]
  rw [hfind]

theorem LooksOnlyAt.comp {α β : Type} {place : String} {f : FileTree → α} (h : LooksOnlyAt place f)
    (g : α → β) : LooksOnlyAt place (fun files => g (f files)) :=
  fun _ _ hfind => congrArg g (h hfind)

variable (r : Recorder) (directory : String) {path : String}

theorem load_withDirectory (files : FileTree) (h : Path.Descends path) :
    load files (r.withDirectory directory).assets path = files.readText (Path.join directory path) := by
  simp only [load, withDirectory, resolve_of_descends directory h]

theorem hasAsset_withDirectory (files : FileTree) (h : Path.Descends path) :
    hasAsset files (r.withDirectory directory).assets path =
      files.holdsFile (Path.join directory path) := by
  simp only [hasAsset, withDirectory, resolve_of_descends directory h]

theorem looksOnlyAt_read (h : Path.Descends path) :
    LooksOnlyAt (Path.join directory path)
      fun files => (platform files).read path (r.withDirectory directory) := by
  simp only [platform, load_withDirectory r directory _ h]
  exact (looksOnlyAt_readText _).comp fun result =>
    (result, (r.withDirectory directory).record (.read path result.toBool))

theorem looksOnlyAt_create (h : Path.Descends path) (id : WidgetId) (frame : Frame)
    (text : Option String) :
    LooksOnlyAt (Path.join directory path) fun files =>
      (platform files).create id (.button frame text (some path)) (r.withDirectory directory) := by
  intro files files' hfind
  have hfile := looksOnlyAt_holdsFile _ hfind
  simp only at hfile
  simp only [platform, create, Option.filter_some, hasAsset_withDirectory r directory _ h, hfile]

theorem read_refused (files : FileTree) (h : ¬ Path.Descends path) :
    (platform files).read path (r.withDirectory directory) =
      (.error (.outside path), (r.withDirectory directory).record (.read path false)) := by
  simp only [platform, load, withDirectory, resolve_of_not_descends directory h]
  rfl

theorem create_refused (files : FileTree) (h : ¬ Path.Descends path) (id : WidgetId) (frame : Frame)
    (text : Option String) :
    (platform files).create id (.button frame text (some path)) (r.withDirectory directory) =
      (.error ⟨"button", "image " ++ path ++ " not found"⟩, r.withDirectory directory) := by
  simp only [platform, create, Option.filter_some, hasAsset, withDirectory,
    resolve_of_not_descends directory h]
  rfl

/-- Assets stay in their directory.  A relative path that leads to no directory above is read at its
    place in the directory, and the image of a button is looked for at the same place.  The trail of
    that place is the one of the directory, followed by ordinary names.  Nothing else of the tree is
    looked at, nothing outside the directory in particular.  Every other path is outside: reading it
    fails, a button with that image is refused with nothing created and nothing recorded, and the
    answers are the same over every tree of files. -/
theorem assets_confined (path : String) :
    (Path.Descends path →
      Path.trail (Path.join directory path) = Path.trail directory ++ Path.trail path ∧
      (∀ c ∈ Path.trail path, c.Ordinary) ∧
      (∀ files, (platform files).read path (r.withDirectory directory) =
        let result := files.readText (Path.join directory path)
        (result, (r.withDirectory directory).record (.read path result.toBool))) ∧
      (∀ files, hasAsset files (r.withDirectory directory).assets path =
        files.holdsFile (Path.join directory path)) ∧
      LooksOnlyAt (Path.join directory path)
        (fun files => (platform files).read path (r.withDirectory directory)) ∧
      LooksOnlyBelow directory
        (fun files => (platform files).read path (r.withDirectory directory)) ∧
      ∀ id frame text,
        LooksOnlyAt (Path.join directory path) (fun files =>
          (platform files).create id (.button frame text (some path)) (r.withDirectory directory)) ∧
        LooksOnlyBelow directory (fun files =>
          (platform files).create id (.button frame text (some path)) (r.withDirectory directory))) ∧
    (¬ Path.Descends path → ∀ files,
      (platform files).read path (r.withDirectory directory) =
        (.error (.outside path), (r.withDirectory directory).record (.read path false)) ∧
      ∀ id frame text,
        (platform files).create id (.button frame text (some path)) (r.withDirectory directory) =
          (.error ⟨"button", "image " ++ path ++ " not found"⟩, r.withDirectory directory)) := by
  constructor
  · intro hpath
    have hread := looksOnlyAt_read r directory hpath
    have hcreate := looksOnlyAt_create r directory hpath
    refine ⟨Path.trail_join directory hpath.relative, fun c hc => hpath.ordinary hc, ?_,
      fun files => hasAsset_withDirectory r directory files hpath, hread, hread.below hpath,
      fun id frame text => ⟨hcreate id frame text, (hcreate id frame text).below hpath⟩⟩
    intro files
    simp only [platform, load_withDirectory r directory files hpath]
  · intro hpath files
    exact ⟨read_refused r directory files hpath, create_refused r directory files hpath⟩

end Recorder
end ScriptBridge
