import AerWatch.Bytes
import AerWatch.Error

/-!
# Configuration spaces

`ConfigSpace` is read access to the registers of one PCI function: a read gives exactly the bytes asked
for or fails. Registers are little-endian; `tryRead8` and its companions report a failure, `read8` and
its companions read zero then. A `MemorySpace` holds its bytes and can be written.
-/

namespace AerWatch

/-- Read access to the registers of one function. -/
structure ConfigSpace where
  address : Address
  /-- The `size` bytes from `offset` on. -/
  read : (offset : UInt16) → (size : Nat) → Except Error (Vector UInt8 size)

namespace ConfigSpace

variable (s : ConfigSpace)

/-- The number in the register of `size` bytes at `offset`. -/
def tryRead (offset : UInt16) (size : Nat) : Except Error Nat :=
  (s.read offset size).map fun bytes => littleEndian bytes.toList

def tryRead8 (offset : UInt16) : Except Error UInt8 := (s.tryRead offset 1).map .ofNat

def tryRead16 (offset : UInt16) : Except Error UInt16 := (s.tryRead offset 2).map .ofNat

def tryRead32 (offset : UInt16) : Except Error UInt32 := (s.tryRead offset 4).map .ofNat

/-- A byte register, zero if it cannot be read. -/
def read8 (offset : UInt16) : UInt8 := (s.tryRead8 offset).toOption.getD 0

/-- A word register, zero if it cannot be read. -/
def read16 (offset : UInt16) : UInt16 := (s.tryRead16 offset).toOption.getD 0

/-- A double word register, zero if it cannot be read. -/
def read32 (offset : UInt16) : UInt32 := (s.tryRead32 offset).toOption.getD 0

/-- What is not the value that stands for a failure was read. -/
theorem eq_ok_of_getD_ne {α : Type} {x : Except Error α} {a : α} (h : x.toOption.getD a ≠ a) :
    x = .ok (x.toOption.getD a) := by
  cases x with
  | error e => exact absurd rfl h
  | ok v => rfl

end ConfigSpace

/-- A configuration space in memory, as for a recorded or a simulated device. -/
structure MemorySpace where
  address : Address
  bytes : List UInt8
deriving DecidableEq

namespace MemorySpace

/-- The extended configuration space of a function has 4 KiB. -/
def fullSize : Nat := 4096

/-- A full space of zeros. -/
def zeroed (address : Address) : MemorySpace := ⟨address, List.replicate fullSize 0⟩

/-- Read access to the space. A read that goes past its end fails with the number of bytes that were
left. -/
def toConfigSpace (m : MemorySpace) : ConfigSpace where
  address := m.address
  read offset size :=
    let available := m.bytes.drop (min offset.toNat m.bytes.length)
    if h : available.length < size then .error (.shortRead m.address offset size available.length)
    else .ok ⟨(available.take size).toArray, by simpa using Nat.min_eq_left (Nat.le_of_not_lt h)⟩

theorem tryRead_toConfigSpace {m : MemorySpace} {offset : UInt16} {size : Nat}
    (h : size ≤ m.bytes.length - offset.toNat) :
    m.toConfigSpace.tryRead offset size =
      .ok (littleEndian ((m.bytes.drop offset.toNat).take size)) := by
  have hdrop : m.bytes.drop (min offset.toNat m.bytes.length) = m.bytes.drop offset.toNat :=
    (List.drop_eq_drop_min ..).symm
  have hl : ¬(m.bytes.drop (min offset.toNat m.bytes.length)).length < size := by
    simp only [List.length_drop]
    omega
  simp only [ConfigSpace.tryRead, toConfigSpace]
  rw [dif_neg hl]
  simp only [Except.map, hdrop, Vector.toList_mk]

theorem tryRead_toConfigSpace_short {m : MemorySpace} {offset : UInt16} {size : Nat}
    (h : m.bytes.length - offset.toNat < size) :
    m.toConfigSpace.tryRead offset size =
      .error (.shortRead m.address offset size (m.bytes.length - offset.toNat)) := by
  have hlength : (m.bytes.drop (min offset.toNat m.bytes.length)).length =
      m.bytes.length - offset.toNat := by
    simp only [List.length_drop]
    omega
  simp only [ConfigSpace.tryRead, toConfigSpace]
  rw [dif_pos (hlength ▸ h), hlength]
  rfl

/-- Stores bytes from `offset` on; a space that is too short is filled up with zeros first. -/
def write (m : MemorySpace) (offset : UInt16) (data : List UInt8) : MemorySpace :=
  { m with bytes := overwrite m.bytes offset.toNat data }

def write8 (m : MemorySpace) (offset : UInt16) (value : UInt8) : MemorySpace :=
  m.write offset (bytesOf 1 value.toNat)

def write16 (m : MemorySpace) (offset : UInt16) (value : UInt16) : MemorySpace :=
  m.write offset (bytesOf 2 value.toNat)

def write32 (m : MemorySpace) (offset : UInt16) (value : UInt32) : MemorySpace :=
  m.write offset (bytesOf 4 value.toNat)

/-- A space cut off or filled up with zeros to a size. -/
def resize (m : MemorySpace) (size : Nat) : MemorySpace :=
  { m with bytes := (m.bytes.take size).rightpad size 0 }

end MemorySpace

end AerWatch
