/-!
# Error bits

The bits of the three status registers that report errors, with the names under which they are
announced.
-/

namespace AerWatch

/-- A bit of a status register that reports an error. -/
structure ErrorBit where
  mask : UInt32
  name : String
deriving DecidableEq

namespace ErrorBit

/-- Whether the bit is set in a register. -/
def isSet (b : ErrorBit) (value : UInt32) : Bool := b.mask &&& value != 0

/-- The bits of the Device Status register that report errors. -/
def statusMask : UInt16 := 0x0f

def correctableMask : UInt32 := 0x1

def fatalMask : UInt32 := 0x4

/-- The errors of the Device Status register. -/
def deviceStatus : List ErrorBit :=
  [⟨0x1, "Correctable Error"⟩, ⟨0x2, "Non-Fatal Error"⟩, ⟨0x4, "Fatal Error"⟩,
   ⟨0x8, "Unsupported Request"⟩]

/-- The errors of the Uncorrectable Error Status register. -/
def uncorrectable : List ErrorBit :=
  [⟨0x10, "Data Link Protocol"⟩, ⟨0x20, "Surprise Down"⟩, ⟨0x1000, "Poisoned TLP"⟩,
   ⟨0x2000, "Flow Control Protocol"⟩, ⟨0x4000, "Completion Timeout"⟩, ⟨0x8000, "Completer Abort"⟩,
   ⟨0x10000, "Unexpected Completion"⟩, ⟨0x20000, "Receiver Overflow"⟩, ⟨0x40000, "Malformed TLP"⟩,
   ⟨0x80000, "ECRC Error Status"⟩, ⟨0x100000, "Unsupported Request"⟩, ⟨0x200000, "ACS Violation"⟩,
   ⟨0x400000, "Internal"⟩, ⟨0x800000, "MC blocked TLP"⟩, ⟨0x1000000, "Atomic egress blocked"⟩,
   ⟨0x2000000, "TLP prefix blocked"⟩]

/-- The errors of the Correctable Error Status register. -/
def correctable : List ErrorBit :=
  [⟨0x1, "Receiver Error Status"⟩, ⟨0x40, "Bad TLP Status"⟩, ⟨0x80, "Bad DLLP Status"⟩,
   ⟨0x100, "REPLAY_NUM Rollover"⟩, ⟨0x1000, "Replay Timer Timeout"⟩, ⟨0x2000, "Advisory Non-Fatal"⟩,
   ⟨0x4000, "Corrected Internal"⟩, ⟨0x8000, "Header Log Overflow"⟩]

end ErrorBit

end AerWatch
