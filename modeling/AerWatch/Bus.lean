import AerWatch.ConfigSpace

/-!
# Buses

A `Bus` is a way to reach the PCI functions of a platform: it lists their addresses and opens their
configuration spaces.
-/

namespace AerWatch

/-- A way to reach the functions of a platform. -/
structure Bus where
  /-- The place that messages name. -/
  accessDir : String
  /-- All functions of the platform. -/
  list : Except Error (List Address)
  /-- The configuration space of a function. -/
  openSpace : Address → Except Error ConfigSpace

/-- The bus whose functions are given by a table of spaces. -/
def Bus.ofSpaces (accessDir : String) (list : Except Error (List Address))
    (spaces : List (Address × MemorySpace)) (absent : FileFault) : Bus where
  accessDir
  list
  openSpace a :=
    match spaces.lookup a with
    | some m => .ok m.toConfigSpace
    | none => .error (.openFailed a absent)

end AerWatch
