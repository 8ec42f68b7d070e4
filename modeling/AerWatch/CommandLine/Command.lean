import AerWatch.CommandLine.Options
import AerWatch.Numeral

/-!
# Commands

What the tool can be asked to do, and how it is asked: options for all commands, the name of a command
and its own arguments.
-/

namespace AerWatch.CommandLine

/-- How devices are listed. -/
inductive ListFormat where
  | compact
  | markdown
deriving DecidableEq

/-- What the tool is to do. -/
inductive Command where
  /-- Monitors the platform, with a pause of so many seconds between two cycles. -/
  | run (interval : Nat) (once : Bool)
  /-- Lists the PCI Express devices. -/
  | devices (format : ListFormat)
  /-- Reports the errors in a log file. -/
  | parseLog (file : String)
deriving DecidableEq

/-- A command with the file that holds the configuration, if one is named. -/
structure Invocation where
  configFile : Option String
  command : Command
deriving DecidableEq

/-- A file must have a name. -/
def isPath (word : String) : Bool := word != ""

/-- Reads a number of seconds. -/
def seconds? (word : String) : Option Nat := Numeral.parse? 10 UInt64.size word.toList

def ListFormat.ofName? : String → Option ListFormat
  | "compact" => some .compact
  | "markdown" => some .markdown
  | _ => none

/-! ### The arguments of the commands -/

namespace Signature

def help : Switch := ⟨some 'h', "help", .inform .help⟩

/-- What may stand before the name of a command. -/
def tool : Signature where
  switches :=
    [⟨some 'c', "config", .value isPath⟩, ⟨some 'v', "verbose", .count⟩, help,
     ⟨some 'V', "version", .inform .version⟩]
  subcommands := ["run", "devices", "parse-log", "help"]

def run : Signature where
  switches :=
    [⟨some 'i', "interval", .value fun word => (seconds? word).isSome⟩, ⟨none, "once", .flag⟩, help]

def devices : Signature where
  switches := [⟨some 'f', "format", .value fun word => (ListFormat.ofName? word).isSome⟩, help]

def parseLog : Signature where
  switches := [help]
  operands := [isPath]

end Signature

/-- The seconds between two cycles unless another number is given. -/
def defaultInterval : Nat := 10

/-- Reads the arguments of a command after its name. -/
def Command.read (name : String) (words : List String) : Except Stop Command :=
  match name with
  | "run" => do
    let (a, _) ← readArguments .run words
    let interval := ((a.value? "interval").bind seconds?).getD defaultInterval
    return .run interval (a.has "once")
  | "devices" => do
    let (a, _) ← readArguments .devices words
    return .devices (((a.value? "format").bind ListFormat.ofName?).getD .compact)
  | "parse-log" => do
    let (a, _) ← readArguments .parseLog words
    match a.operands with
    | [file] => return .parseLog file
    | _ => throw .misuse
  | "help" =>
    match words with
    | [] => throw (.inform .help)
    | [topic] => throw (if Signature.tool.subcommands.contains topic then .inform .help else .misuse)
    | _ => throw .misuse
  | _ => throw .misuse

/-- Reads the arguments of the tool. Those of the command are read before it is settled that the value of
the last option in front of it was refused. -/
def Invocation.read (words : List String) : Except Stop Invocation := do
  let (a, rest) ← readArguments .tool words
  match rest with
  | [] => throw .misuse
  | name :: rest =>
    let command ← Command.read name rest
    if a.refused then throw .misuse
    return ⟨a.value? "config", command⟩

end AerWatch.CommandLine
