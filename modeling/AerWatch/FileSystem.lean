import AerWatch.Error
import AerWatch.Utf8

/-!
# File systems

What the platform gives when a file is opened or a directory is listed, and how paths are joined and
compared. A file keeps its identity while it is renamed or written to.
-/

namespace AerWatch

/-- What can be read from an open file. -/
inductive FileContent where
  | regular (bytes : List UInt8)
  /-- A directory can be opened and has a size, but it cannot be read. -/
  | directory (size : Nat)
deriving DecidableEq

/-- A file at the time it was opened. -/
structure OpenFile where
  identity : Nat
  content : FileContent
deriving DecidableEq

namespace OpenFile

def size (f : OpenFile) : Nat :=
  match f.content with
  | .regular bytes => bytes.length
  | .directory size => size

/-- The bytes of a regular file. -/
def bytes (f : OpenFile) : Except FileFault (List UInt8) :=
  match f.content with
  | .regular bytes => .ok bytes
  | .directory _ => .error .isDirectory

/-- A read at a place: at most `size` bytes, and fewer where the file ends. -/
def readAt (f : OpenFile) (start size : Nat) : Except FileFault (List UInt8) :=
  f.bytes.map fun bytes => (bytes.drop start).take size

end OpenFile

/-- Read access to files, by their paths. -/
structure FileSystem where
  openFile : String → Except FileFault OpenFile
  /-- The names in a directory, in any order. -/
  listDirectory : String → Except FileFault (List String)

namespace FileSystem

/-- A file system that holds no file. -/
def empty : FileSystem := ⟨fun _ => .error .notFound, fun _ => .error .notFound⟩

/-- The file system of which only some files and directories were looked at. -/
def ofRecords (files : List (String × Except FileFault OpenFile))
    (directories : List (String × Except FileFault (List String))) : FileSystem where
  openFile path := (files.lookup path).getD (.error .notFound)
  listDirectory path := (directories.lookup path).getD (.error .notFound)

/-- The bytes of a file. -/
def readFile (fs : FileSystem) (path : String) : Except FileFault (List UInt8) := do
  (← fs.openFile path).bytes

/-- The text of a file. -/
def readText (fs : FileSystem) (path : String) : Except FileFault (List Char) := do
  match Utf8.decode? (← fs.readFile path) with
  | some cs => return cs
  | none => throw .invalidUtf8

end FileSystem

/-- The path `name` as seen from the directory `dir`. -/
def joinPath (dir name : String) : String :=
  if name.startsWith "/" then name
  else if dir = "" ∨ dir.endsWith "/" then dir ++ name
  else dir ++ "/" ++ name

/-- The names that a path is made of. -/
def pathNames (path : String) : List String := (path.toList.splitOn '/').map String.ofList

/-- The names of a path that matter. Empty ones do not, nor do points, unless a path begins with one. -/
def properNames (path : String) : List String :=
  match pathNames path with
  | [] => []
  | name :: names => [name].filter (· != "") ++ names.filter fun n => n != "" && n != "."

/-- Whether two paths are spellings of one. -/
def isSamePath (a b : String) : Bool :=
  a.startsWith "/" == b.startsWith "/" && properNames a == properNames b

end AerWatch
