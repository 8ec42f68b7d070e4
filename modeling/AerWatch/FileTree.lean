import AerWatch.Bytes
import AerWatch.FileSystem

/-!
# Trees of files

A `FileTree` is a file system in memory, as for a recorded platform. Paths are followed name by name
from the root or from a working directory, and a file keeps its identity until it is removed.
-/

namespace AerWatch

/-- The names on the way from the root to a file. -/
abbrev Location := List String

/-- Files by their locations. The root is a directory in every tree. -/
structure FileTree where
  entries : List (Location × OpenFile) := []
  /-- The identity of the next file. -/
  fresh : Nat := 1
  /-- The size of a directory. It depends on the platform that was recorded. -/
  directorySize : Nat := 4096

namespace FileTree

variable (t : FileTree)

/-! ### Following paths -/

def root : OpenFile := ⟨0, .directory t.directorySize⟩

/-- The file at a location. -/
def file? (l : Location) : Option OpenFile := if l = [] then some t.root else t.entries.lookup l

def isDirectory (l : Location) : Bool := (t.file? l).any fun f => f.content matches .directory _

/-- The longest name that a file may have, in bytes. -/
def maxName : Nat := 255

/-- The longest path that may be asked for, in bytes. -/
def maxPath : Nat := 4095

/-- Follows names from a location on. Every name is looked up in a directory. -/
def follow : Location → List String → Except FileFault Location
  | l, [] => .ok l
  | l, name :: rest =>
    if !t.isDirectory l then .error .notDirectory
    else if name = "" ∨ name = "." then follow l rest
    else if name = ".." then follow l.dropLast rest
    else if maxName < name.utf8ByteSize then .error .nameTooLong
    else if (t.file? (l ++ [name])).isSome then follow (l ++ [name]) rest
    else .error .notFound

/-- Where a path begins. -/
def start (base : Location) (path : String) : Location := if path.startsWith "/" then [] else base

/-- The location of the file with a path. -/
def resolve (base : Location) (path : String) : Except FileFault Location :=
  if path.toList.contains '\x00' then .error .nulInName
  else if path = "" then .error .notFound
  else if maxPath < path.utf8ByteSize then .error .nameTooLong
  else t.follow (start base path) (pathNames path)

/-- The names in a directory. -/
def children (l : Location) : List String :=
  t.entries.filterMap fun (m, _) => if m.dropLast = l then m.getLast? else none

/-- Read access to the tree as seen from a working directory. -/
def fileSystem (base : Location) : FileSystem where
  openFile path := do
    match t.file? (← t.resolve base path) with
    | some f => return f
    | none => throw .notFound
  listDirectory path := do
    let l ← t.resolve base path
    if t.isDirectory l then return t.children l else throw .notDirectory

/-! ### Changes -/

/-- The location that a path names, whether there is a file or not. -/
def locate (base : Location) (path : String) : Location :=
  (pathNames path).foldl (fun l name =>
    if name = "" ∨ name = "." then l else if name = ".." then l.dropLast else l ++ [name])
    (start base path)

/-- Puts content at a location. A file that is there keeps its identity. -/
def put (l : Location) (content : FileContent) : FileTree :=
  match t.file? l with
  | some f =>
    { t with entries := t.entries.map fun (m, g) => (m, if m = l then ⟨f.identity, content⟩ else g) }
  | none => { t with entries := t.entries ++ [(l, ⟨t.fresh, content⟩)], fresh := t.fresh + 1 }

/-- Makes the directories on the way to a location that do not exist yet. -/
def makeParents (l : Location) : FileTree :=
  (List.range l.length).foldl (fun t n =>
    if (t.file? (l.take n)).isSome then t else t.put (l.take n) (.directory t.directorySize)) t

def makeDirectory (l : Location) : FileTree :=
  let t := t.makeParents l
  if (t.file? l).isSome then t else t.put l (.directory t.directorySize)

/-- The bytes of a regular file, none if there is no such file. -/
def bytesAt (l : Location) : List UInt8 :=
  ((t.file? l).bind (·.bytes.toOption)).getD []

/-- Replaces what a file holds. -/
def write (l : Location) (bytes : List UInt8) : FileTree := (t.makeParents l).put l (.regular bytes)

/-- Adds to the end of a file. -/
def append (l : Location) (bytes : List UInt8) : FileTree := t.write l (t.bytesAt l ++ bytes)

/-- Overwrites a part of a file. -/
def patch (l : Location) (start : Nat) (bytes : List UInt8) : FileTree :=
  t.write l (overwrite (t.bytesAt l) start bytes)

/-- Removes a file, or a directory with all that is in it. -/
def remove (l : Location) : FileTree :=
  { t with entries := t.entries.filter fun (m, _) => !l.isPrefixOf m }

/-- Moves a file, or a directory with all that is in it, in place of what is at `target`. -/
def move (l target : Location) : FileTree :=
  let t := (t.makeParents target).remove target
  { t with
    entries := t.entries.map fun (m, f) =>
      if l.isPrefixOf m then (target ++ m.drop l.length, f) else (m, f) }

end FileTree

end AerWatch
