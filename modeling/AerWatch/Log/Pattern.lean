import AerWatch.Error
import AerWatch.Regex.Search

/-!
# Patterns of log messages

A parser is configured by a list of patterns, each of which finds one field of a message. Compiled, a
pattern is a `Rule`: a name and a function from a line to the value captured there, if any.
-/

namespace AerWatch.Log

/-- How a field of a message is found. -/
structure FieldPattern where
  name : String
  regex : String
  /-- The group of the expression that holds the value. -/
  submatch : Nat := 1
  /-- Nothing is captured on lines that match this expression. -/
  exclude : Option String := none
  /-- A message without the field is dropped. -/
  mandatory : Bool := false
deriving DecidableEq

/-- A parser: its first pattern begins a message and its last one ends it. -/
structure ParserConfig where
  name : String
  patterns : List FieldPattern
deriving DecidableEq

/-! ### The names of the fields that have a role of their own, or stand in kernel messages -/

namespace Field

def rootPort : String := "root port"

def device : String := "device"

def severity : String := "severity"

def errorType : String := "error type"

def id : String := "id"

end Field

/-- The parser of the messages that the kernel prints about errors of PCI Express devices. -/
def ParserConfig.kernel : ParserConfig where
  name := "default"
  patterns :=
    [{ name := Field.rootPort, regex := "pcieport (.*): AER:", mandatory := true },
     { name := Field.device, regex := " ([0-9a-fA-F:\\.]*): PCIe Bus Error", mandatory := true },
     { name := Field.severity, regex := "severity=([^,]*)", mandatory := true },
     { name := Field.errorType, regex := "type=(.*)," },
     { name := Field.id, regex := ", id=(.*)", mandatory := true }]

/-- A compiled pattern. -/
structure Rule where
  name : String
  mandatory : Bool
  /-- The value captured on a line. -/
  capture : String → Option String

section Compilation

/-- Reads a regular expression, or reports the parser and the pattern it belongs to. -/
def readRegex (parser pattern regex : String) : Except Error Regex :=
  (Regex.ofPattern regex).mapError (.invalidPattern parser pattern)

/-- What a group of an expression captures on a line, unless the line is excluded. -/
def captureWith (regex : Regex) (exclude : Option Regex) (submatch : Nat) (line : String) :
    Option String :=
  if exclude.any (·.isMatch line) then none
  else (regex.find? line).bind (·.group? submatch)

/-- Compiles a pattern of the parser with the given name. -/
def FieldPattern.compile (parser : String) (p : FieldPattern) : Except Error Rule := do
  let regex ← readRegex parser p.name p.regex
  let exclude ← p.exclude.mapM (readRegex parser p.name)
  return ⟨p.name, p.mandatory, captureWith regex exclude p.submatch⟩

/-- Compiles the patterns of a parser, of which there must be one. -/
def ParserConfig.rules (c : ParserConfig) : Except Error (List Rule) :=
  match c.patterns with
  | [] => .error (.parserWithoutPatterns c.name)
  | ps => ps.mapM (·.compile c.name)

end Compilation

end AerWatch.Log
