import AerWatch.ConfigSpace
import AerWatch.Device
import AerWatch.ErrorBit
import AerWatch.Event

/-!
# Changes of the error bits

Status bits stay set until software clears them, which the monitor never does. A device remembers the
bits it showed before, and `Policy.transitions` are the changes that are announced. `Policy.check` reads
a device and gives the events with the device as it is remembered from then on; nothing is announced or
remembered unless all its status registers could be read.
-/

namespace AerWatch

/-- Which errors are announced. -/
structure Policy where
  /-- An error that is still set is announced at every poll. -/
  persistent : Bool := false
  /-- Errors masked in the mask registers are announced, too. -/
  reportMasked : Bool := false
deriving DecidableEq

/-- How an error bit changed. -/
inductive Transition where
  | set
  | cleared
deriving DecidableEq

/-! ### The registers, by their offset in the structure that holds them -/

namespace Register

def deviceStatus : UInt16 := 0x0a

def uncorrectableStatus : UInt16 := 0x04

def uncorrectableMask : UInt16 := 0x08

def uncorrectableSeverity : UInt16 := 0x0c

def correctableStatus : UInt16 := 0x10

def correctableMask : UInt16 := 0x14

end Register

namespace Policy

section Transitions

variable (p : Policy)

/-- Whether a status register has to be looked at bit by bit. -/
def hasNews (current previous : UInt32) : Bool :=
  (p.persistent && current != 0) || current != previous

/-- The change of one bit, if it is announced. -/
def transition? (current previous masked : UInt32) (b : ErrorBit) : Option Transition :=
  if !p.reportMasked && b.isSet masked then none
  else if b.isSet current then
    if !p.persistent && b.isSet previous then none else some .set
  else if b.isSet previous then some .cleared
  else none

/-- The changes that are announced, in the order of the bits. -/
def transitions (bits : List ErrorBit) (current previous masked : UInt32) :
    List (ErrorBit × Transition) :=
  bits.filterMap fun b => (p.transition? current previous masked b).map fun t => (b, t)

theorem mem_transitions {bits : List ErrorBit} {current previous masked : UInt32} {b : ErrorBit}
    {t : Transition} :
    (b, t) ∈ p.transitions bits current previous masked ↔
      b ∈ bits ∧ p.transition? current previous masked b = some t := by
  simp only [transitions, List.mem_filterMap, Option.map_eq_some_iff, Prod.mk.injEq]
  constructor
  · rintro ⟨a, ha, u, hu, rfl, rfl⟩
    exact ⟨ha, hu⟩
  · rintro ⟨hb, ht⟩
    exact ⟨b, hb, t, ht, rfl, rfl⟩

/-- The changes of a status register, none if there is nothing new about it as a whole. -/
def news (bits : List ErrorBit) (current previous masked : UInt32) :
    List (ErrorBit × Transition) :=
  if p.hasNews current previous then p.transitions bits current previous masked else []

end Transitions

section Events

/-- The announcement of a change; `label` says which kind of error it is. -/
def announce (subject : String) (errorClass : ErrorClass) (label : String) (b : ErrorBit) :
    Transition → Event
  | .set =>
    .pcieError errorClass.severity subject (some errorClass) (label ++ " set: " ++ b.name)
  | .cleared => .pcieError .ok subject (some errorClass) (label ++ " cleared: " ++ b.name)

/-- The class of an error of the Device Status register. -/
def deviceStatusClass (b : ErrorBit) : ErrorClass :=
  if b.mask = ErrorBit.fatalMask then .fatal
  else if b.mask = ErrorBit.correctableMask then .correctable
  else .nonFatal

/-- The class of an uncorrectable error, as the severity register has it. -/
def uncorrectableClass (severity : UInt32) (b : ErrorBit) : ErrorClass :=
  if b.isSet severity then .fatal else .nonFatal

end Events

section Registers

variable (p : Policy) (d : Device) (s : ConfigSpace)

/-- Reads the status registers of a device. Those of a structure it lacks keep what was seen last. -/
def readStatus : Except Error Snapshot := do
  let deviceStatus ← match d.express with
    | none => .ok d.snapshot.deviceStatus
    | some cap => (s.tryRead16 (cap + Register.deviceStatus)).map (· &&& ErrorBit.statusMask)
  match d.aer with
  | none => return { d.snapshot with deviceStatus }
  | some pos =>
    let uncorrectable ← s.tryRead32 (pos + Register.uncorrectableStatus)
    let correctable ← s.tryRead32 (pos + Register.correctableStatus)
    return { deviceStatus, uncorrectable, correctable }

/-- Announces the changes of the Device Status register. One that shows nothing new is left alone. -/
def checkDeviceStatus (status : UInt16) : Device × List Event :=
  match d.express with
  | none => (d, [])
  | some _ =>
    let previous := d.snapshot.deviceStatus
    if p.hasNews status.toUInt32 previous.toUInt32 then
      let changes := p.transitions ErrorBit.deviceStatus status.toUInt32 previous.toUInt32 0
      ({ d with snapshot := { d.snapshot with deviceStatus := status } },
        changes.map fun (b, t) =>
          announce d.address.text (deviceStatusClass b) "Device Status Error" b t)
    else (d, [])

/-- Announces the changes of the Uncorrectable Error Status register. Errors have the class that the
severity register gives them now, cleared ones too. -/
def checkUncorrectable (errors : UInt32) : Device × List Event :=
  match d.aer with
  | none => (d, [])
  | some pos =>
    let masked := s.read32 (pos + Register.uncorrectableMask)
    let severity := s.read32 (pos + Register.uncorrectableSeverity)
    let changes := p.news ErrorBit.uncorrectable errors d.snapshot.uncorrectable masked
    ({ d with snapshot := { d.snapshot with uncorrectable := errors } },
      changes.map fun (b, t) =>
        let c := uncorrectableClass severity b
        announce d.address.text c ("Uncorrectable(" ++ c.text ++ ") Error") b t)

/-- Announces the changes of the Correctable Error Status register. -/
def checkCorrectable (errors : UInt32) : Device × List Event :=
  match d.aer with
  | none => (d, [])
  | some pos =>
    let masked := s.read32 (pos + Register.correctableMask)
    let changes := p.news ErrorBit.correctable errors d.snapshot.correctable masked
    ({ d with snapshot := { d.snapshot with correctable := errors } },
      changes.map fun (b, t) =>
        announce d.address.text .correctable "Correctable Error" b t)

end Registers

end Policy

/-- A check goes on from the device as it is remembered and the events so far. An error ends it, but
takes nothing back. -/
abbrev Checking := EStateM Error (Device × List Event)

theorem Checking.run_ofExcept {α : Type} (x : Except Error α) (c : Device × List Event) :
    (ofExcept x : Checking α).run c =
      match x with
      | .ok a => .ok a c
      | .error e => .error e c := by
  cases x <;> rfl

namespace Policy

section Checks

variable (p : Policy) (s : ConfigSpace)

/-- Goes on by the check of one register. -/
def record (checked : Device → Device × List Event) : Checking Unit :=
  modify fun (d, events) => ((checked d).1, events ++ (checked d).2)

theorem run_record (checked : Device → Device × List Event) (d : Device) (events : List Event) :
    (record checked).run (d, events) = .ok () ((checked d).1, events ++ (checked d).2) := rfl

/-- Announces all changes of a device, register by register. -/
def checking : Checking Unit := do
  let (d, _) ← get
  let status ← ofExcept (readStatus d s)
  record fun d => p.checkDeviceStatus d status.deviceStatus
  record fun d => p.checkUncorrectable d s status.uncorrectable
  record fun d => p.checkCorrectable d s status.correctable

/-- A check reads the status once and then, if that succeeds, goes through the registers. -/
theorem run_checking (d : Device) (events : List Event) :
    (p.checking s).run (d, events) =
      match readStatus d s with
      | .error e => .error e (d, events)
      | .ok status =>
        let r₁ := p.checkDeviceStatus d status.deviceStatus
        let r₂ := p.checkUncorrectable r₁.1 s status.uncorrectable
        let r₃ := p.checkCorrectable r₂.1 s status.correctable
        .ok () (r₃.1, events ++ (r₁.2 ++ r₂.2 ++ r₃.2)) := by
  simp only [checking, EStateM.run_bind, EStateM.run_get, Checking.run_ofExcept]
  cases readStatus d s with
  | error e => rfl
  | ok status => simp only [run_record, List.append_assoc]

/-- Announces all changes of one device. -/
def check (d : Device) (s : ConfigSpace) : Except Error (Device × List Event) :=
  match (p.checking s).run (d, []) with
  | .ok () checked => .ok checked
  | .error e _ => .error e

end Checks

end Policy

end AerWatch
