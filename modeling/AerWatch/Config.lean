import AerWatch.Log.Tail
import AerWatch.Policy

/-!
# Configuration

What is monitored and how. Every setting has a default; a configuration is refused when it names
nothing to monitor or a parser that cannot be built.
-/

namespace AerWatch

/-- The way in which devices are reached. -/
inductive Source where
  | sysfs
  | proc
  /-- Devices are not polled. -/
  | other
deriving DecidableEq

/-- The source with a name, in letters of either case. -/
def Source.ofName (name : String) : Source :=
  match String.ofList (name.toList.map Char.toLower) with
  | "sysfs" => sysfs
  | "proc" => proc
  | _ => other

/-- Where the devices of a source are found unless another place is given. -/
def Source.standardDir : Source → Option String
  | sysfs => some "/sys/bus/pci"
  | proc => some "/proc/bus/pci"
  | other => none

/-- The settings of a monitor. -/
structure Config where
  source : Source := .sysfs
  /-- Where the devices are found; an empty text stands for the place that the source has. -/
  accessDir : Option String := none
  reportMasked : Bool := false
  persistentNotifications : Bool := false
  logFile : String := "/var/log/syslog"
  readLog : Bool := false
  /-- Whether the first read of the log takes in what it already holds. -/
  firstFullRead : Bool := false
  messagePatterns : List Log.ParserConfig := []
deriving DecidableEq

namespace Config

variable (c : Config)

/-- Whether all settings are the default ones. -/
def isDefault : Bool :=
  let standard : Config := {}
  isSamePath c.logFile standard.logFile && { c with logFile := standard.logFile } == standard

/-- Whether devices are polled. -/
def readsDevices : Bool := c.source != .other

/-- Where the devices are found. -/
def deviceDir : Option String :=
  match c.accessDir with
  | none => c.source.standardDir
  | some dir => if dir = "" then c.source.standardDir else some dir

/-- Which errors are announced. -/
def policy : Policy := ⟨c.persistentNotifications, c.reportMasked⟩

/-- The parsers of the log. -/
def parsers : List Log.ParserConfig :=
  match c.messagePatterns with
  | [] => [.kernel]
  | ps => ps

/-- Builds the parser of a log file. -/
def openParser (p : Log.ParserConfig) : Except Error Log.LogParser :=
  Log.LogParser.create p c.logFile

/-- Refuses a parser that has no name or cannot be built. -/
def validateParser (p : Log.ParserConfig) : Except Error Unit := do
  if p.name = "" then throw .parserWithoutName
  discard (c.openParser p)

/-- Refuses a configuration that a monitor cannot work with. -/
def validate : Except Error Unit := do
  if !c.readsDevices && !c.readLog then throw .noDataSource
  c.messagePatterns.forM c.validateParser

end Config

end AerWatch
