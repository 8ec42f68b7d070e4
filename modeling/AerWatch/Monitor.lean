import AerWatch.Bus.Files
import AerWatch.Config
import AerWatch.Fleet
import AerWatch.Log.Report

/-!
# The monitor

A `Monitor` polls the devices of a fleet and then reads the log with every parser. The log is read only
when all devices could be polled, and a log that cannot be read ends the cycle.
-/

namespace AerWatch

/-- The bus that a configuration asks for. -/
def Config.bus? (c : Config) (fs : FileSystem) : Option Bus :=
  match c.source, c.deviceDir with
  | .sysfs, some dir => some (.sysfs fs dir)
  | .proc, some dir => some (.procfs fs dir)
  | _, _ => none

/-- Where the devices are listed that a configuration asks for. -/
def Config.listing? (c : Config) : Option String :=
  if c.readsDevices then c.deviceDir.map Bus.listingPath else none

/-- The file that holds the configuration space of a function. -/
def Config.spaceFile? (c : Config) (a : Address) : Option String :=
  match c.source, c.deviceDir with
  | .sysfs, some dir => some (Bus.sysfsPath dir a)
  | .proc, some dir => some (Bus.procfsPath dir a)
  | _, _ => none

/-- What is polled and read in every cycle. -/
structure Monitor where
  policy : Policy
  fleet : Fleet
  parsers : List Log.LogParser
  /-- Whether a log that is read for the first time is read from its start. -/
  firstRead : Bool

/-- What a cycle found out. -/
structure CycleReport where
  monitor : Monitor
  events : List Event
  result : Except Error Unit

namespace Monitor

/-- A monitor of the devices of a bus, if there is one, and of the log. -/
def ofBus (c : Config) (bus : Option Bus) : Except Error Monitor := do
  c.validate
  let fleet ← match bus with
    | some bus => Fleet.discover bus
    | none => .ok {}
  let parsers ← if c.readLog then c.parsers.mapM c.openParser else .ok []
  return { policy := c.policy, fleet, parsers, firstRead := c.firstFullRead }

/-- A monitor of the devices that the configuration names, and of the log. -/
def ofConfig (c : Config) (fs : FileSystem) : Except Error Monitor := ofBus c (c.bus? fs)

/-- The announcement that the log could not be read. -/
def logFailure : Event := .failure "" "Failed to read from log file"

/-- Reads the log with every parser up to the first one that fails. -/
def readLogs (fs : FileSystem) (replay : Bool) :
    List Log.LogParser → List Log.LogParser × List Event × Except Error Unit
  | [] => ([], [], .ok ())
  | p :: ps =>
    match p.read fs replay with
    | (p, .error e) => (p :: ps, [logFailure], .error e)
    | (p, .ok messages) =>
      let (ps, events, result) := readLogs fs replay ps
      (p :: ps, messages.map (·.toEvent) ++ events, result)

/-- Polls the devices, if there are any to poll. -/
def poll (m : Monitor) (bus : Option Bus) : FleetReport :=
  match bus with
  | some bus => m.fleet.poll m.policy bus
  | none => ⟨m.fleet, [], .ok ()⟩

/-- One cycle: polls the devices and reads the log. -/
def read (m : Monitor) (bus : Option Bus) (fs : FileSystem) : CycleReport :=
  let polled := m.poll bus
  let m := { m with fleet := polled.fleet }
  match polled.result with
  | .error e => ⟨m, polled.events, .error e⟩
  | .ok () =>
    let (parsers, events, result) := readLogs fs m.firstRead m.parsers
    let m := { m with parsers }
    { monitor := if result.isOk then { m with firstRead := false } else m
      events := polled.events ++ events
      result }

end Monitor

end AerWatch
