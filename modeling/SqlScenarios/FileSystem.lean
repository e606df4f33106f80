import SqlScenarios.FileSystem.Path

/-!
# File systems

A file system reads files, creates directories and writes files.  `FileTree` is a file system
held in a value, in which a program can be run without any effect.  It holds files and directories
only: there are no links, so two places never hold the same entry, every entry may be read and
written, and the letter case of names matters.
-/

namespace SqlScenarios

/-- Why a file operation failed. -/
inductive FileFault where
  | notFound
  | alreadyExists
  | notDirectory
  | isDirectory
  | nameTooLong
  | nulInName
  | invalidText
  | other (message : String)
  deriving DecidableEq, Repr

/-- The wording of a failed file operation. -/
def FileFault.message : FileFault → String
  | notFound => "No such file or directory (os error 2)"
  | alreadyExists => "File exists (os error 17)"
  | notDirectory => "Not a directory (os error 20)"
  | isDirectory => "Is a directory (os error 21)"
  | nameTooLong => "File name too long (os error 36)"
  | nulInName => "file name contained an unexpected NUL byte"
  | invalidText => "stream did not contain valid UTF-8"
  | other message => message

/-- The operations of a file system, in a monad. -/
structure FileSystem (m : Type → Type) where
  readFile : Path → m (Except FileFault String)
  createDirectories : Path → m (Except FileFault Unit)
  writeFile : Path → String → m (Except FileFault Unit)

/-! ## File trees -/

-- More than one library compares bytes; entries are compared by the core one.
local instance bytesDecidableEq : DecidableEq ByteArray := ByteArray.instDecidableEq

/-- An entry of a directory.  A file holds a text, or bytes that are no text. -/
inductive FileEntry where
  | file (content : String)
  | binary (bytes : ByteArray) (noText : ¬ bytes.IsValidUTF8)
  | directory
  deriving DecidableEq

/-- A place in a tree: the names of the entries on the way from the top. -/
abbrev Place := List SystemText

/-- The entries below the top of a tree, with their places. -/
structure FileTree where
  entries : List (Place × FileEntry)
  deriving DecidableEq

namespace FileTree

/-- The tree without entries. -/
def empty : FileTree := ⟨[]⟩

/-- The entry at a place; the top is a directory. -/
def entryAt? (tree : FileTree) (place : Place) : Option FileEntry :=
  if place = [] then some .directory else tree.entries.lookup place

/-- Put an entry at a place. -/
def put (place : Place) (entry : FileEntry) : List (Place × FileEntry) → List (Place × FileEntry)
  | [] => [(place, entry)]
  | (other, old) :: rest =>
      if other = place then (place, entry) :: rest else (other, old) :: put place entry rest

/-- The tree with an entry at a place. -/
def set (tree : FileTree) (place : Place) (entry : FileEntry) : FileTree :=
  ⟨put place entry tree.entries⟩

/-- The texts in the files of a tree with their places. -/
def files (tree : FileTree) : List (Place × String) :=
  tree.entries.filterMap fun
    | (place, .file content) => some (place, content)
    | _ => none

/-- How many bytes a name may take. -/
def maximalNameSize : Nat := 255

/-- Whether a path holds a character that no name can hold. -/
def holdsNul (path : Path) : Bool :=
  path.steps.any fun
    | .into name => name.holdsNul
    | _ => false

/-- The place that a step leads to from a directory. -/
def follow (tree : FileTree) (place : Place) (step : PathStep) : Except FileFault Place :=
  match tree.entryAt? place with
  | none => .error .notFound
  | some (.file _) | some (.binary ..) => .error .notDirectory
  | some .directory =>
      match step with
      | .stay => .ok place
      | .up => .ok place.dropLast
      | .into name =>
          if maximalNameSize < name.size then .error .nameTooLong
          else .ok (place ++ [name])

/-- The place that a path leads to; there need not be an entry at the last place. -/
def resolve (tree : FileTree) (path : Path) : Except FileFault Place :=
  if holdsNul path then .error .nulInName else path.steps.foldlM tree.follow []

/-- The content of the file at the end of a path. -/
def read (tree : FileTree) (path : Path) : Except FileFault String := do
  match tree.entryAt? (← tree.resolve path) with
  | none => .error .notFound
  | some .directory => .error .isDirectory
  | some (.binary ..) => .error .invalidText
  | some (.file content) => .ok content

/-- Follow a step and create a directory where it leads to, unless there is one. -/
def enter (state : FileTree × Place) (step : PathStep) : Except FileFault (FileTree × Place) := do
  let (tree, place) := state
  let next ← tree.follow place step
  match tree.entryAt? next with
  | none => .ok (tree.set next .directory, next)
  | some _ => .ok (tree, next)

/-- The tree with a directory at the end of a path, and wherever the path passes. -/
def withDirectories (tree : FileTree) (path : Path) : Except FileFault FileTree := do
  if holdsNul path then .error .nulInName
  else
    let (tree, place) ← path.steps.foldlM enter (tree, [])
    match tree.entryAt? place with
    | some (.file _) | some (.binary ..) => .error .alreadyExists
    | _ => .ok tree

/-- The tree with a file at the end of a path. -/
def withFile (tree : FileTree) (path : Path) (content : String) :
    Except FileFault FileTree := do
  let place ← tree.resolve path
  match tree.entryAt? place with
  | some .directory => .error .isDirectory
  | _ =>
      match tree.entryAt? place.dropLast with
      | none => .error .notFound
      | some (.file _) | some (.binary ..) => .error .notDirectory
      | some .directory => .ok (tree.set place (.file content))

end FileTree

/-- Replace the tree if a step succeeds. -/
def updateTree (step : FileTree → Except FileFault FileTree) :
    StateM FileTree (Except FileFault Unit) := fun tree =>
  match step tree with
  | .ok tree => (.ok (), tree)
  | .error fault => (.error fault, tree)

/-- The file system of a tree. -/
def FileTree.fileSystem : FileSystem (StateM FileTree) where
  readFile path := fun tree => (tree.read path, tree)
  createDirectories path := updateTree (·.withDirectories path)
  writeFile path content := updateTree (·.withFile path content)

end SqlScenarios
