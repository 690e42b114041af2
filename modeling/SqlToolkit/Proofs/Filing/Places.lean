import Mathlib.Data.List.Induction
import SqlToolkit.Proofs.Histories.Twins
/-!
Places of files. A path that leads anywhere leads to one place, whatever folders there are; making
folders leaves the files alone, and writing a file touches no place but its own.
-/

namespace SqlToolkit

namespace Path

/-- The place that a path leads to if it leads anywhere. -/
def place (path : Path) : Path :=
  path.foldl Path.step []

theorem step_of_name {folder : Path} {name : String} (one : name ≠ ".") (two : name ≠ "..") :
    Path.step folder name = folder ++ [name] := by
  rw [Path.step, if_neg one, if_neg two]

theorem place_concat (path : Path) (name : String) :
    Path.place (path ++ [name]) = Path.step path.place name := by
  rw [place, List.foldl_append]
  rfl

end Path

namespace FileTree

variable {tree made after : FileTree} {folder path place : Path} {name content : String}

theorem placeBelow?_eq_some (found : tree.placeBelow? folder path = some place) :
    path.foldl Path.step folder = place := by
  induction path generalizing folder with
  | nil => exact Option.some.inj found
  | cons next rest ih =>
      simp only [placeBelow?] at found
      split at found
      · exact ih found
      · cases found

theorem place?_eq_some (found : tree.place? path = some place) : path.place = place := by
  rw [place?] at found
  split at found
  · exact placeBelow?_eq_some found
  · cases found

theorem isFolder_iff : tree.isFolder path = true ↔
    tree.place? path = some path.place ∧ path.place ∈ tree.folders := by
  rw [isFolder, Option.any_eq_true]
  constructor
  · rintro ⟨place, found, there⟩
    obtain rfl := place?_eq_some found
    exact ⟨found, List.contains_iff_mem.mp there⟩
  · rintro ⟨found, there⟩
    exact ⟨path.place, found, List.contains_iff_mem.mpr there⟩

/-! Making folders -/

theorem files_makeFoldersBelow? (makes : tree.makeFoldersBelow? folder path = some made) :
    made.files = tree.files := by
  induction path generalizing tree folder with
  | nil => rw [← Option.some.inj makes]
  | cons next rest ih =>
      simp only [makeFoldersBelow?] at makes
      split at makes
      · exact ih makes
      · split at makes
        · cases makes
        · have kept := ih makes
          exact kept

theorem files_makeFolder? (makes : tree.makeFolder? path = some made) :
    made.files = tree.files := by
  simp only [makeFolder?] at makes
  split at makes
  · cases makes
  · split at makes
    · exact files_makeFoldersBelow? makes
    · exact files_makeFoldersBelow? (Option.filter_eq_some_iff.mp makes).1

/-- What is written lies in the folder that the path leads to, and nothing else changes. -/
theorem of_write? (one : name ≠ ".") (two : name ≠ "..")
    (written : tree.write? folder name content = some after) :
    tree.isFolder folder = true ∧ tree.place? (folder ++ [name]) = some (folder.place ++ [name]) ∧
      after.folders = tree.folders ∧
      after.files = tree.files.filter (fun file => file.1 != folder.place ++ [name]) ++
        [(folder.place ++ [name], content)] := by
  obtain ⟨place, found, written⟩ := Option.bind_eq_some_iff.mp written
  have same : folder.place ++ [name] = place := by
    rw [← place?_eq_some found, Path.place_concat, Path.step_of_name one two]
  subst same
  split at written
  · next accepted =>
      cases written
      simp only [Bool.and_eq_true] at accepted
      exact ⟨accepted.1.1, found, rfl, rfl⟩
  · cases written

/-! Migrations at a place -/

/-- Every file and every folder lies in a folder, and the outermost folder is there. -/
structure Sound (tree : FileTree) : Prop where
  root : [] ∈ tree.folders
  files : ∀ file ∈ tree.files, file.1.dropLast ∈ tree.folders
  folders : ∀ folder ∈ tree.folders, folder.dropLast ∈ tree.folders

namespace Sound

theorem makeFoldersBelow? (sound : tree.Sound) (there : folder ∈ tree.folders)
    (makes : tree.makeFoldersBelow? folder path = some made) : made.Sound := by
  induction path generalizing tree folder with
  | nil => exact Option.some.inj makes ▸ sound
  | cons next rest ih =>
      simp only [FileTree.makeFoldersBelow?] at makes
      split at makes
      · next known => exact ih sound (List.contains_iff_mem.mp known) makes
      · next unknown =>
          have absent : folder.step next ∉ tree.folders := fun member =>
            unknown (List.contains_iff_mem.mpr member)
          have one : next ≠ "." := by
            rintro rfl
            exact absent there
          have two : next ≠ ".." := by
            rintro rfl
            exact absent (sound.folders folder there)
          split at makes
          · cases makes
          · refine ih ⟨?_, ?_, ?_⟩ (List.mem_append_right _ List.mem_cons_self) makes
            · exact List.mem_append_left _ sound.root
            · exact fun file member => List.mem_append_left _ (sound.files file member)
            · intro other member
              rcases List.mem_append.mp member with old | new
              · exact List.mem_append_left _ (sound.folders other old)
              · rw [List.mem_singleton.mp new, Path.step_of_name one two, List.dropLast_concat]
                exact List.mem_append_left _ there

theorem makeFolder? (sound : tree.Sound) (makes : tree.makeFolder? path = some made) :
    made.Sound := by
  simp only [FileTree.makeFolder?] at makes
  split at makes
  · cases makes
  · split at makes
    · exact sound.makeFoldersBelow? sound.root makes
    · exact sound.makeFoldersBelow? sound.root (Option.filter_eq_some_iff.mp makes).1

theorem write? (sound : tree.Sound) (one : name ≠ ".") (two : name ≠ "..")
    (written : tree.write? folder name content = some after) : after.Sound := by
  obtain ⟨there, -, folders, files⟩ := of_write? one two written
  refine ⟨folders ▸ sound.root, fun file member => ?_, folders ▸ sound.folders⟩
  rw [folders]
  rcases List.mem_append.mp (files ▸ member) with old | new
  · exact sound.files file (List.mem_filter.mp old).1
  · rw [List.mem_singleton.mp new, List.dropLast_concat]
    exact (isFolder_iff.mp there).2

end Sound

end FileTree

end SqlToolkit
