import SqlToolkit.Text.WordClass
/-!
The files that migrations stand in: a tree of folders and files, and which of the files of a folder
are migrations.
-/

namespace SqlToolkit

/-- The names that lead to a file or a folder. A dot leads nowhere, and two dots lead back out. -/
abbrev Path := List String

def Path.text (path : Path) : String :=
  "/".intercalate path

/-- The names between slashes. A slash in front is a name of its own, which no folder has. -/
def Path.ofText (text : String) : Path :=
  let names := (text.splitOn "/").filter (· != "")
  if text.startsWith "/" then "/" :: names else names

/-- The place that a name leads to from a folder. -/
def Path.step (folder : Path) (name : String) : Path :=
  if name = "." then folder
  else if name = ".." then folder.dropLast
  else folder ++ [name]

/-- The path without the dots at its end. -/
def Path.withoutDots (path : Path) : Path :=
  (path.reverse.dropWhile (· == ".")).reverse

/-- Files and folders by their places, which are paths without dots. The outermost folder is always
there. -/
structure FileTree where
  folders : List Path := [[]]
  /-- Files with their contents. -/
  files : List (Path × String) := []

namespace FileTree

/-- The longest name that a file can have, in bytes. -/
def nameLimit : Nat := 255

/-- The longest path that leads anywhere, in bytes. -/
def pathLimit : Nat := 4095

/-- Whether a new file or folder can have the name. -/
def isName (name : String) : Bool :=
  name.utf8ByteSize ≤ nameLimit && name.toList.all fun c => c != '/' && c != '\x00'

def hasFileAt (tree : FileTree) (place : Path) : Bool :=
  tree.files.any fun file => file.1 == place

/-- The place that a path leads to from a folder; all but its last name lead to folders. -/
def placeBelow? (tree : FileTree) (folder : Path) : Path → Option Path
  | [] => some folder
  | name :: rest =>
      let place := folder.step name
      if rest.isEmpty || tree.folders.contains place then tree.placeBelow? place rest else none

def place? (tree : FileTree) (path : Path) : Option Path :=
  if path.text.utf8ByteSize ≤ pathLimit then tree.placeBelow? [] path else none

def isFolder (tree : FileTree) (path : Path) : Bool :=
  (tree.place? path).any tree.folders.contains

def content? (tree : FileTree) (path : Path) : Option String :=
  (tree.place? path).bind fun place => tree.files.lookup place

/-- Makes the folders that a path leads through from a folder. -/
def makeFoldersBelow? (tree : FileTree) (folder : Path) : Path → Option FileTree
  | [] => some tree
  | name :: rest =>
      let place := folder.step name
      if tree.folders.contains place then tree.makeFoldersBelow? place rest
      else if tree.hasFileAt place || !isName name then none
      else
        let tree := { tree with folders := tree.folders ++ [place] }
        tree.makeFoldersBelow? place rest

/-- Makes a folder and those that it lies in; a file in the way prevents it. A path that ends in a
dot does not make the folder before the dot. -/
def makeFolder? (tree : FileTree) (path : Path) : Option FileTree :=
  let whole := path.withoutDots
  if pathLimit < path.text.utf8ByteSize then none
  else if whole.length = path.length then tree.makeFoldersBelow? [] path
  else (tree.makeFoldersBelow? [] whole.dropLast).filter (·.isFolder whole)

/-- Writes a file into a folder that is there, over an old file if need be. -/
def write? (tree : FileTree) (folder : Path) (name content : String) : Option FileTree := do
  let place ← tree.place? (folder ++ [name])
  if tree.isFolder folder && !tree.folders.contains place && isName name then
    some { tree with
      files := tree.files.filter (fun file => file.1 != place) ++ [(place, content)] }
  else none

/-- Puts an empty file below a folder, or a folder if the name ends in a slash. -/
def addEmptyOne (above : Path) (tree : FileTree) (name : String) : FileTree :=
  let path := above ++ Path.ofText name
  if name.endsWith "/" then (tree.makeFolder? path).getD tree
  else
    let tree := (tree.makeFolder? path.dropLast).getD tree
    (tree.write? path.dropLast (path.getLastD "") "").getD tree

def addEmpty (tree : FileTree) (above : Path) (names : List String) : FileTree :=
  names.foldl (addEmptyOne above) tree

def namesIn (tree : FileTree) (folder : Path) : List String :=
  match tree.place? folder with
  | none => []
  | some folder =>
      tree.files.filterMap fun (place, _) =>
        if place.dropLast == folder then place.getLast? else none

end FileTree

def splitExtension : List Char → Option (List Char × List Char)
  | [] => none
  | c :: rest =>
      match splitExtension rest with
      | some (stem, extension) => some (c :: stem, extension)
      | none => if c = '.' then some ([], rest) else none

/-- The identifier of a migration file: its name without the extension. The name starts with a
digit, has an underscore, and lies on one line; the extension is a word. -/
def migrationIdentifier? (name : String) : Option String :=
  match splitExtension name.toList with
  | some (stem, extension) =>
      if stem.head?.any Text.isDigit && stem.contains '_' && !stem.contains '\n' &&
          !extension.isEmpty && extension.all Text.isWordChar then
        some (String.ofList stem)
      else none
  | none => none

def isMigrationFile (name : String) : Bool :=
  (migrationIdentifier? name).isSome

/-- The identifiers of the migrations in a folder, in ascending order. -/
def FileTree.migrations (tree : FileTree) (folder : Path) : List String :=
  ((tree.namesIn folder).filterMap migrationIdentifier?).mergeSort (· ≤ ·)

end SqlToolkit
