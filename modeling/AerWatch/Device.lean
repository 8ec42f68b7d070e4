import AerWatch.Address

/-!
# Devices

A device on the watch list: where it is, where its capability structures are, and the error bits that
were seen when it was last read.
-/

namespace AerWatch

/-- The error bits seen when a device was last read. -/
structure Snapshot where
  deviceStatus : UInt16 := 0
  uncorrectable : UInt32 := 0
  correctable : UInt32 := 0
deriving DecidableEq

/-- A PCI function and what is known about it. -/
structure Device where
  address : Address
  /-- The offset of the PCI Express capability structure. -/
  express : Option UInt16 := none
  /-- The offset of the Advanced Error Reporting structure. -/
  aer : Option UInt16 := none
  snapshot : Snapshot := {}
deriving DecidableEq

/-- What a device can report. -/
inductive DeviceKind where
  | conventional
  | express
  | expressAer
deriving DecidableEq

/-- The kind of a device, from the structures it has. -/
def Device.kind (d : Device) : DeviceKind :=
  match d.express, d.aer with
  | none, _ => .conventional
  | some _, none => .express
  | some _, some _ => .expressAer

end AerWatch
