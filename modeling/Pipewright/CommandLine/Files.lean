import Pipewright.CommandLine.FileName

/-!
# Access to files

The program sees files only through a handful of operations.  A tree of files in
memory offers them, and so does the file system of a machine.
-/

namespace Pipewright

/-- Why a file operation failed. -/
inductive FileFault where
  | notFound
  | notDirectory
  | isDirectory
  | alreadyExists
  | denied
  | notText
  | other (text : String)
deriving DecidableEq, Repr

/-- The wording of a fault. -/
def FileFault.message : FileFault → String
  | .notFound => "No such file or directory (os error 2)"
  | .notDirectory => "Not a directory (os error 20)"
  | .isDirectory => "Is a directory (os error 21)"
  | .alreadyExists => "File exists (os error 17)"
  | .denied => "Permission denied (os error 13)"
  | .notText => "stream did not contain valid UTF-8"
  | .other text => text

/-- The operations on files that the program uses. -/
structure FileAccess (m : Type → Type) where
  readText : String → m (Except FileFault String)
  isPresent : String → m Bool
  isDirectory : String → m Bool
  names : String → m (List String)
  createDirectories : String → m (Except FileFault Unit)
  writeText : String → String → m (Except FileFault Unit)

/-- Files in memory, each under the names that lead to it, and the directories
that were created, which may be empty. -/
structure FileTree where
  files : List (List String × String)
  directories : List (List String)
deriving DecidableEq, Repr, Inhabited

namespace FileTree

/-- The tree of some files, each given with its path. -/
def ofFiles (files : List (String × String)) : FileTree :=
  ⟨files.map fun file => (FileName.parts file.1, file.2), []⟩

/-- The files with their paths. -/
def toFiles (tree : FileTree) : List (String × String) :=
  tree.files.map fun file => (String.intercalate "/" file.1, file.2)

/-- Everything that has a place of its own in the tree. -/
def places (tree : FileTree) : List (List String) :=
  tree.files.map (·.1) ++ tree.directories

/-- Is this the place of a directory? -/
def hasDirectory (tree : FileTree) (place : List String) : Bool :=
  place.isEmpty || tree.directories.contains place ||
    tree.places.any fun other => place.isPrefixOf other && place.length < other.length

/-- Is this the place of a file? -/
def hasFile (tree : FileTree) (place : List String) : Bool :=
  (tree.files.lookup place).isSome

/-- What lies outside the tree: the directories around it are there, and nothing is
known about what they hold. -/
def outside {α : Type} (parts : List String) : Except FileFault α :=
  .error (if parts.all fun part => ["", ".", ".."].contains part then .isDirectory else .notFound)

/-- Walk from a place along the parts of a path. -/
def walkFrom (tree : FileTree) : List String → List String → Except FileFault (List String)
  | place, [] => .ok place
  | place, part :: rest =>
      if tree.hasDirectory place then
        if part = "" ∨ part = "." then tree.walkFrom place rest
        else if part = ".." then
          if place.isEmpty then outside rest else tree.walkFrom place.dropLast rest
        else
          let next := place ++ [part]
          if tree.hasFile next || tree.hasDirectory next then tree.walkFrom next rest
          else .error .notFound
      else .error .notDirectory

/-- The place that a path leads to.  Paths that begin with a slash lead out of the
tree. -/
def locate (tree : FileTree) (path : String) : Except FileFault (List String) :=
  if path.isEmpty then .error .notFound
  else if path.startsWith "/" then outside (FileName.parts path)
  else tree.walkFrom [] (FileName.parts path)

/-- The text of a file. -/
def readText (tree : FileTree) (path : String) : Except FileFault String := do
  let place ← tree.locate path
  match tree.files.lookup place with
  | some text => return text
  | none => .error .isDirectory

/-- Does a path lead to a file or directory? -/
def isPresent (tree : FileTree) (path : String) : Bool :=
  match tree.locate path with
  | .ok _ => true
  | .error fault => fault == .isDirectory

/-- Does a path lead to a directory? -/
def isDirectory (tree : FileTree) (path : String) : Bool :=
  match tree.locate path with
  | .ok place => tree.hasDirectory place
  | .error fault => fault == .isDirectory

/-- The names in a directory. -/
def names (tree : FileTree) (path : String) : List String :=
  match tree.locate path with
  | .ok place =>
      (tree.places.filterMap fun other =>
        if place.isPrefixOf other then (other.drop place.length).head? else none).eraseDups
  | .error _ => []

/-- Create the directories along the parts of a path. -/
def createFrom (tree : FileTree) : List String → List String → Except FileFault FileTree
  | _, [] => .ok tree
  | place, part :: rest =>
      if part = "" ∨ part = "." then tree.createFrom place rest
      else if part = ".." then
        if place.isEmpty then .error .notFound else tree.createFrom place.dropLast rest
      else
        let next := place ++ [part]
        if tree.hasDirectory next then tree.createFrom next rest
        else if tree.hasFile next then
          .error (if rest.all (· == "") then .alreadyExists else .notDirectory)
        else createFrom { tree with directories := next :: tree.directories } next rest

/-- Create a directory and those that lead to it. -/
def createDirectories (tree : FileTree) (path : String) : Except FileFault FileTree :=
  if path.startsWith "/" then .error .notFound else tree.createFrom [] (FileName.parts path)

/-- Put a text at a place. -/
def put (tree : FileTree) (place : List String) (text : String) : FileTree :=
  if tree.hasFile place then
    { tree with
      files := tree.files.map fun file => if file.1 == place then (place, text) else file }
  else { tree with files := tree.files ++ [(place, text)] }

/-- Write a text to a file; the directory around it has to exist. -/
def writeText (tree : FileTree) (path text : String) : Except FileFault FileTree := do
  if path.startsWith "/" then .error .notFound
  let parts := FileName.parts path
  let name := parts.getLastD ""
  let directory ← tree.walkFrom [] parts.dropLast
  let place := directory ++ [name]
  if !tree.hasDirectory directory then .error .notDirectory
  else if name = "" ∨ name = "." ∨ name = ".." ∨ tree.hasDirectory place then
    .error .isDirectory
  else return tree.put place text

/-- The files that are new or different since `before`, by path. -/
def changedSince (tree before : FileTree) : List (String × String) :=
  (tree.files.filter fun file => before.files.lookup file.1 != some file.2).map fun file =>
    (String.intercalate "/" file.1, file.2)

/-- Run an operation that changes the tree; a fault leaves it as it is. -/
def change (operation : FileTree → Except FileFault FileTree) :
    StateM FileTree (Except FileFault Unit) := do
  match operation (← get) with
  | .ok tree => set tree; return .ok ()
  | .error fault => return .error fault

/-- The operations on a tree in memory. -/
def access : FileAccess (StateM FileTree) where
  readText path := return (← get).readText path
  isPresent path := return (← get).isPresent path
  isDirectory path := return (← get).isDirectory path
  names path := return (← get).names path
  createDirectories path := change (·.createDirectories path)
  writeText path text := change (·.writeText path text)

end FileTree

end Pipewright
