import AerWatch.CommandLine.Execution
import AerWatch.Instant
import Std.Time.DateTime.Timestamp

/-!
# The tool

Looks at the files that a command needs, executes the command on what was seen, and prints. Events tell
the host and the time at which they are printed.
-/

namespace AerWatch.Main

open CommandLine

/-! ### Looking at files -/

/-- The fault that the platform reports. -/
def faultOf : IO.Error → FileFault
  | .noFileOrDirectory _ _ _ => .notFound
  | .inappropriateType _ code _ => if code = 21 then .isDirectory else .notDirectory
  | .permissionDenied _ code details => .other (details ++ " (os error " ++ toString code ++ ")")
  | e => .other (toString e)

/-- What was seen of the platform. -/
structure Seen where
  files : List (String × Except FileFault OpenFile) := []
  directories : List (String × Except FileFault (List String)) := []

def Seen.fileSystem (s : Seen) : FileSystem := .ofRecords s.files s.directories

/-- The file that is at a path now. It is taken for the one seen before if it goes on from what that one
held. -/
def identify (before : Seen) (path : String) (content : FileContent) : OpenFile :=
  match before.files.lookup path, content with
  | some (.ok ⟨identity, .regular old⟩), .regular new =>
    ⟨if old.isPrefixOf new then identity else identity + 1, content⟩
  | some (.ok ⟨identity, _⟩), _ => ⟨identity + 1, content⟩
  | _, _ => ⟨1, content⟩

/-- What the file at a path holds now. -/
def contentAt (path : String) : IO FileContent := do
  try
    return .regular (← IO.FS.readBinFile path).toList
  catch e =>
    if faultOf e = .isDirectory then
      let here ← IO.currentDir
      return .directory (← (here / path).metadata).byteSize.toNat
    else throw e

/-- Looks at a file. -/
def lookAt (before : Seen) (path : String) : IO (String × Except FileFault OpenFile) := do
  try
    return (path, .ok (identify before path (← contentAt path)))
  catch e => return (path, .error (faultOf e))

/-- Looks at files, of which some were seen before. -/
def Seen.look (s : Seen) (paths : List String) : IO Seen := do
  let files ← paths.mapM (lookAt s)
  return { s with files := files ++ s.files }

/-- Looks at a directory. -/
def Seen.lookInside (s : Seen) (path : String) : IO Seen := do
  let here ← IO.currentDir
  let names ← try
      let entries ← (here / path).readDir
      pure (Except.ok (entries.toList.map fun entry => entry.fileName))
    catch e => pure (.error (faultOf e))
  return { s with directories := (path, names) :: s.directories }

/-- Looks at the listing of the devices. -/
def Seen.lookAtListing (s : Seen) (c : Config) : IO Seen := do
  match c.listing? with
  | none => return s
  | some path =>
    if c.source = .sysfs then s.lookInside path else s.look [path]

/-- Looks at the configuration spaces of devices. -/
def Seen.lookAtSpaces (s : Seen) (c : Config) (as : List Address) : IO Seen :=
  s.look (as.filterMap c.spaceFile?)

/-- The functions that the listing names. -/
def Seen.listed (s : Seen) (c : Config) : List Address :=
  ((c.bus? s.fileSystem).bind (·.list.toOption)).getD []

/-! ### Printing -/

/-- The name of the host. -/
def host : IO String := do
  let name ← try pure (← IO.FS.readFile "/proc/sys/kernel/hostname").trimAscii.toString
    catch _ => pure ""
  return if name = "" then "localhost" else name

def now : IO Instant := do
  let t ← Std.Time.Timestamp.now
  return ⟨t.toNanosecondsSinceUnixEpoch.val.toNat⟩

def print (host : String) (printed : List Printed) : IO Unit := do
  let out ← IO.getStdout
  for p in printed do
    out.putStr (p.output host (← now).text)
  out.flush

/-- Reports how a command ended. -/
def finish (o : Outcome) : IO UInt8 := do
  match o.result with
  | .ok () => pure ()
  | .error e => IO.eprintln (fatalText e)
  return o.status

/-! ### Commands -/

/-- The log files that a command reads. -/
def logFiles (i : Invocation) (c : Config) : List String :=
  match i.command with
  | .run _ _ => if c.readLog then [c.logFile] else []
  | .devices _ => []
  | .parseLog file => [file]

/-- Looks at all that a command needs. -/
def survey (i : Invocation) : IO Seen := do
  let s ← Seen.look {} i.configFile.toList
  match i.config s.fileSystem with
  | .error _ => return s
  | .ok c =>
    let s ← s.look (logFiles i c)
    match i.command with
    | .parseLog _ => return s
    | .run _ _ | .devices _ =>
      let s ← s.lookAtListing c
      s.lookAtSpaces c (s.listed c)

/-- Runs cycles for ever. A cycle that fails is reported. -/
partial def watch (c : Config) (interval : Nat) (host : String) (m : Monitor) (s : Seen) : IO Unit := do
  let seen ← s.look (if c.readLog then [c.logFile] else [])
  let spaces ← seen.lookAtSpaces c (m.fleet.devices.map (·.address))
  let fs := spaces.fileSystem
  let report := m.read (c.bus? fs) fs
  print host (report.events.map .event)
  match report.result with
  | .ok () => pure ()
  | .error e => IO.eprintln ("Poll cycle failed: " ++ e.message)
  IO.sleep (.ofNat (interval * 1000))
  watch c interval host report.monitor { files := seen.files.take 1 }

/-- Monitors the platform until the tool is ended from outside. -/
def monitor (i : Invocation) (interval : Nat) : IO UInt8 := do
  let s ← survey i
  let fs := s.fileSystem
  let built := do
    let c ← i.config fs
    return (c, ← Monitor.ofConfig c fs)
  match built with
  | .error e => finish (.failed e)
  | .ok (c, m) =>
    watch c interval (← host) m {}
    return 0

/-- Executes a command. -/
def execute (i : Invocation) : IO UInt8 := do
  match i.command with
  | .run interval false => monitor i interval
  | _ =>
    let o := i.execute (← survey i).fileSystem
    print (← host) o.printed
    finish o

def usage : List String :=
  ["Monitor the errors reported by PCI Express devices.", "",
   "Usage: pcierr [-c <file>] [-v]... <command>", "", "Commands:",
   "  run [-i <seconds>] [--once]          print the errors of devices and log as JSON lines",
   "  devices [-f <compact|markdown>]      list the PCI Express devices",
   "  parse-log <file>                     report the errors in a whole log file"]

/-- Answers why no command is run. -/
def explain (stop : Stop) : IO UInt8 := do
  match stop with
  | .inform .version => IO.println versionText
  | .inform .help => usage.forM (IO.println ·)
  | .misuse => usage.forM (IO.eprintln ·)
  return stop.status

end AerWatch.Main

def main (args : List String) : IO UInt32 := do
  let status ← match AerWatch.CommandLine.Invocation.read args with
    | .error stop => AerWatch.Main.explain stop
    | .ok i => AerWatch.Main.execute i
  return status.toUInt32
