import AerWatch.Bus
import AerWatch.Capability
import AerWatch.Policy

/-!
# Fleets of devices

A `Fleet` is the list of devices that are polled together. `Fleet.discover` finds the PCI Express
devices of a bus, and `Fleet.poll` checks them one after another. It reports a device that cannot be
read, counts it as failed and goes on with the next.
-/

namespace AerWatch

/-- The devices that are polled together. -/
structure Fleet where
  devices : List Device := []
deriving DecidableEq

/-- A device as a poll leaves it. -/
structure DeviceReport where
  device : Device
  /-- The events so far. -/
  events : List Event
  failed : Bool
deriving DecidableEq

/-- What a poll found out about a fleet. -/
structure FleetReport where
  fleet : Fleet
  events : List Event
  result : Except Error Unit

namespace Fleet

section Discovery

variable (bus : Bus)

/-- All functions of a bus. -/
def enumerate : Except Error Fleet :=
  bus.list.map fun as => ⟨as.map fun address => { address }⟩

/-- The offset of the PCI Express structure of a device. A space without a chain tells nothing new. -/
def expressOf (d : Device) (s : ConfigSpace) : Option UInt16 :=
  if s.read16 Capability.statusOffset &&& Capability.chainBit != 0 then Capability.findExpress s
  else d.express

/-- A device with its capability structures as they are now, if it is a PCI Express device that can be
opened. -/
def locate? (d : Device) : Option Device :=
  match bus.openSpace d.address with
  | .error _ => none
  | .ok s =>
    match expressOf d s with
    | none => none
    | some cap => some { d with express := some cap, aer := Capability.findAer s }

/-- Keeps the PCI Express devices. -/
def prune (fleet : Fleet) : Fleet := ⟨fleet.devices.filterMap (locate? bus)⟩

/-- The PCI Express devices of a bus, of which there must be one. -/
def discover : Except Error Fleet := do
  let fleet := (← enumerate bus).prune bus
  if fleet.devices = [] then throw (.noDevicesFound bus.accessDir)
  return fleet

end Discovery

/-- The device at an address. -/
def get? (fleet : Fleet) (a : Address) : Option Device := fleet.devices.find? (·.address == a)

section Polling

variable (p : Policy) (bus : Bus)

/-- Opens and checks a device. -/
def checkDevice : Checking Unit := do
  let (d, _) ← get
  let s ← ofExcept (bus.openSpace d.address)
  p.checking s

/-- The announcement that a device could not be read. -/
def readFailure (d : Device) : Event := .failure d.address.text "Failed to read device status"

/-- Polls one device, going on from the events so far. One that cannot be read is reported. -/
def pollFrom (events : List Event) (d : Device) : DeviceReport :=
  match (checkDevice p bus).run (d, events) with
  | .ok () (d, events) => ⟨d, events, false⟩
  | .error _ (d, events) => ⟨d, events ++ [readFailure d], true⟩

/-- Polls one device on its own. -/
def pollDevice (d : Device) : DeviceReport := pollFrom p bus [] d

/-- Polls devices one after another, going on from the events and the number of failures so far. -/
def pollAll (events : List Event) (failed : Nat) : List Device → List Device × List Event × Nat
  | [] => ([], events, failed)
  | d :: ds =>
    let r := pollFrom p bus events d
    let (ds, events, failed) := pollAll r.events (if r.failed then failed + 1 else failed) ds
    (r.device :: ds, events, failed)

/-- The outcome of a poll in which a number of devices failed. -/
def verdict (failed : Nat) : Except Error Unit :=
  if failed = 0 then .ok () else .error (.cycleFailed failed)

/-- Polls every device of a fleet. -/
def poll (fleet : Fleet) : FleetReport :=
  let (devices, events, failed) := pollAll p bus [] 0 fleet.devices
  ⟨⟨devices⟩, events, verdict failed⟩

end Polling

end Fleet

end AerWatch
