import GpuTexture.Bytes.Basic
import GpuTexture.File

/-!
# Trees of files

Files in directories, and what a path names among them. A path is walked name by name, and the first
step that cannot be taken is the answer: nothing can be looked up in a file, not even the file
itself, and a name that is too long is refused before it is looked for.
-/

namespace GpuTexture

/-- Files by their place, which is the list of names from the root, and the directory from which
paths start. There are no directories but this one and those on the way to it or to a file. -/
structure FileTree where
  files : List (List String × Bytes)
  workingDirectory : List String
deriving DecidableEq

namespace FileTree

inductive Entry where
  | file (content : Bytes)
  | directory
deriving DecidableEq

/-- In bytes, like the length of a whole path. -/
def nameLimit : Nat := 255

def pathLimit : Nat := 4095

def entry? (tree : FileTree) (place : List String) : Option Entry :=
  match tree.files.lookup place with
  | some content => some (.file content)
  | none =>
    if (tree.workingDirectory :: tree.files.map (·.1)).any place.isPrefixOf then some .directory
    else none

/-- The names on a path. A slash at the end asks for a directory, as a dot behind it would. -/
def pathNames (path : String) : List String :=
  (path.splitOn "/").filter (· ≠ "") ++ if path.endsWith "/" then ["."] else []

/-- The place that a name leads to. There is no way up from the root. -/
def next (place : List String) (name : String) : List String :=
  if name = "." then place
  else if name = ".." then place.dropLast
  else place ++ [name]

def step (tree : FileTree) (place : List String) (name : String) :
    Except FileError (List String) :=
  match tree.entry? place with
  | none => .error .missing
  | some (.file _) => .error .notDirectory
  | some .directory =>
    if nameLimit < name.utf8ByteSize then .error .nameTooLong
    else if (tree.entry? (next place name)).isNone then .error .missing
    else .ok (next place name)

def read (tree : FileTree) (path : String) : Except FileError Bytes := do
  if pathLimit < path.utf8ByteSize then throw .nameTooLong
  let start := if path.startsWith "/" then [] else tree.workingDirectory
  let place ← (pathNames path).foldlM tree.step start
  match tree.entry? place with
  | some (.file content) => return content
  | some .directory => throw .isDirectory
  | none => throw .missing

end FileTree

end GpuTexture
