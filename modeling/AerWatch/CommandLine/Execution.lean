import AerWatch.CommandLine.DeviceTable
import AerWatch.CommandLine.PlainText
import AerWatch.Config.Reader
import AerWatch.Monitor

/-!
# Execution of commands

What a command prints and how it ends, for a platform that is given as a file system. Events are
printed as objects, one on a line.
-/

namespace AerWatch.CommandLine

/-- What a command prints. -/
inductive Printed where
  | line (text : String)
  | event (e : Event)

/-- The text of what is printed. -/
def Printed.text (host timestamp : String) : Printed → String
  | line text => text
  | event e => e.line host timestamp

/-- What is written for it: its text, ended by a line feed. -/
def Printed.output (host timestamp : String) (p : Printed) : String := p.text host timestamp ++ "\n"

/-- What a command printed and how it ended. -/
structure Outcome where
  printed : List Printed
  result : Except Error Unit

/-- A command that ended before it printed anything. -/
def Outcome.failed (e : Error) : Outcome := ⟨[], .error e⟩

section Commands

variable (fs : FileSystem)

/-- The devices that a configuration names. -/
def discover (c : Config) : Except Error Fleet :=
  match c.bus? fs with
  | none => .error .pollingDisabled
  | some bus => Fleet.discover bus

/-- Lists the devices. -/
def listDevices (c : Config) (format : ListFormat) : Outcome :=
  match discover fs c with
  | .error e => .failed e
  | .ok fleet => ⟨(deviceTable format fleet).map .line, .ok ()⟩

/-- The events of a whole log, by every parser in turn up to the first one that fails. -/
def logEvents (file : String) : List Log.ParserConfig → List Event × Except Error Unit
  | [] => ([], .ok ())
  | c :: cs =>
    match Log.LogParser.create c file with
    | .error e => ([], .error e)
    | .ok p =>
      match (p.read fs true).2 with
      | .error e => ([], .error e)
      | .ok messages =>
        let (events, result) := logEvents file cs
        (messages.map (·.toEvent) ++ events, result)

/-- Reports the errors in a log file. -/
def parseLog (c : Config) (file : String) : Outcome :=
  let (events, result) := logEvents fs file c.parsers
  ⟨events.map .event, result⟩

/-- Builds a monitor and runs one cycle. -/
def runOnce (c : Config) : Outcome :=
  match Monitor.ofConfig c fs with
  | .error e => .failed e
  | .ok m =>
    let report := m.read (c.bus? fs) fs
    ⟨report.events.map .event, report.result⟩

/-- The configuration that is named, or the default one. -/
def Invocation.config (i : Invocation) : Except Error Config :=
  match i.configFile with
  | none => .ok {}
  | some path => Config.ofFile fs path

/-- Does what a command asks for; monitoring ends after one cycle. -/
def Invocation.execute (i : Invocation) : Outcome :=
  match i.config fs with
  | .error e => .failed e
  | .ok c =>
    match i.command with
    | .run _ _ => runOnce fs c
    | .devices format => listDevices fs c format
    | .parseLog file => parseLog fs c file

end Commands

/-- The text that tells the version. -/
def versionText : String := "pcie_errors_app 0.1.0"

/-- What is reported when a command fails. -/
def fatalText (e : Error) : String :=
  .ofList (PlainText.withoutControls (PlainText.indent ("Fatal Error: " ++ e.message).toList))

/-- The status that the tool ends with. -/
def Outcome.status (o : Outcome) : UInt8 := if o.result.isOk then 0 else 1

/-- The status that the tool ends with when no command is run. -/
def Stop.status : Stop → UInt8
  | inform _ => 0
  | misuse => 2

end AerWatch.CommandLine
