import AerWatch.Bus
import AerWatch.FileSystem
import AerWatch.Unicode.Blank

/-!
# Buses in the file system

The kernel shows every function of the platform as a file that holds its configuration space. In the
tree of `sysfs` the functions are the directories under `devices`, by their addresses; in that of
`procfs` a table lists them, and a file is named by bus, device and function alone.
-/

namespace AerWatch.Bus

/-- The place under the root where the functions are listed. -/
def listingPath (root : String) : String := joinPath root "devices"

/-- The configuration space that a file holds. A read that gets fewer bytes than it asked for fails,
and every read does when a directory stands in place of the file. -/
def fileSpace (a : Address) (file : OpenFile) : ConfigSpace where
  address := a
  read offset size :=
    match file.readAt offset.toNat size with
    | .error fault => .error (.readFailed a offset fault)
    | .ok bytes =>
      if h : bytes.length = size then .ok ⟨bytes.toArray, by simpa using h⟩
      else .error (.shortRead a offset size bytes.length)

variable (fs : FileSystem)

/-- Opens the file that holds the configuration space of a function. -/
def openFileSpace (path : String) (a : Address) : Except Error ConfigSpace :=
  match fs.openFile path with
  | .ok file => .ok (fileSpace a file)
  | .error fault => .error (.openFailed a fault)

section Sysfs

/-- The address that an entry of the listing stands for. Entries that begin with a point stand for
none. -/
def entryAddress? (name : String) : Option Address :=
  if name.startsWith "." then none else Address.parse? name

/-- The file that holds the configuration space of a function. -/
def sysfsPath (root : String) (a : Address) : String :=
  joinPath (joinPath (listingPath root) a.text) "config"

/-- The tree with a directory for every function. -/
def sysfs (root : String) : Bus where
  accessDir := root
  list :=
    match fs.listDirectory (listingPath root) with
    | .ok names => .ok (Address.sort (names.filterMap entryAddress?))
    | .error fault => .error (.deviceListUnavailable (listingPath root) fault)
  openSpace a := openFileSpace fs (sysfsPath root a) a

end Sysfs

section Procfs

/-- The address that a line of the table stands for: its first field is the slot. -/
def lineAddress? (line : List Char) : Option Address :=
  let field := (line.dropWhile Unicode.isBlank).takeWhile (!Unicode.isBlank ·)
  (Numeral.parse? 16 UInt32.size field).map fun slot => .ofSlot (.ofNat slot)

/-- The file that holds the configuration space of a function. -/
def procfsPath (root : String) (a : Address) : String :=
  joinPath (joinPath root (String.ofList (Numeral.hex 2 a.bus.toNat)))
    (String.ofList (Numeral.hex 2 a.device.toNat ++ '.' :: Nat.toDigits 10 a.function.toNat))

/-- The tree with a table of all functions. -/
def procfs (root : String) : Bus where
  accessDir := root
  list :=
    match fs.readText (listingPath root) with
    | .ok table => .ok ((table.splitOn '\n').filterMap lineAddress?)
    | .error fault => .error (.deviceListUnavailable (listingPath root) fault)
  openSpace a := openFileSpace fs (procfsPath root a) a

end Procfs

end AerWatch.Bus
