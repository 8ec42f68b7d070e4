import AerWatch.FileSystem
import AerWatch.Log.Message

/-!
# Following a log file

A `LogParser` remembers how far it has read a log file and the message that is under way there. A line
is read once it is complete. A file that was replaced or has become shorter is read from its start, and
the message that was under way in the old one is given up.
-/

namespace AerWatch.Log

section Lines

def newline : UInt8 := 10

/-- How many bytes there are up to the last line break, which is included. -/
def completeLength (bytes : List UInt8) : Nat :=
  bytes.length - (bytes.reverse.takeWhile (· != newline)).length

/-- A line without the carriage returns at its end. -/
def dropReturns (cs : List Char) : List Char := (cs.reverse.dropWhile (· == '\r')).reverse

/-- The text of a line. -/
def lineText (bytes : List UInt8) : String := String.ofList (dropReturns (Utf8.decodeLossy bytes))

/-- The texts between the line breaks. What follows the last one counts as a line of its own, so there
is an empty line at the end of complete lines. -/
def lines (bytes : List UInt8) : List String := (bytes.splitOn newline).map lineText

end Lines

/-- A parser at work on a log file. -/
structure LogParser where
  name : String
  path : String
  rules : List Rule
  /-- How many bytes were read, if the file was ever opened. -/
  offset : Option Nat := none
  /-- The identity of the file when it was last opened. -/
  identity : Option Nat := none
  pending : Option Draft := none

namespace LogParser

/-- A parser that has read nothing yet. -/
def create (c : ParserConfig) (path : String) : Except Error LogParser :=
  c.rules.map fun rules => { name := c.name, path, rules }

variable (p : LogParser)

/-- Takes in a line. -/
def parseLine (line : String) : LogParser × Option Message :=
  let (pending, message) := assemble p.rules p.pending line
  ({ p with pending }, message)

/-- Takes the complete lines from a place in the file on. -/
def takeFrom (file : OpenFile) (start : Nat) : LogParser × Except Error (List String) :=
  match file.bytes with
  | .error fault => (p, .error (.logRead p.path fault))
  | .ok bytes =>
    let rest := bytes.drop start
    let length := completeLength rest
    ({ p with offset := some (start + length) }, .ok (lines (rest.take length)))

/-- Whether the file opened is another one than before. -/
def isReplaced (file : OpenFile) : Bool := p.identity.any (· != file.identity)

/-- Takes the lines that were added to the file. When it is opened for the first time, what it already
holds is passed over unless `replay`. -/
def takeFile (file : OpenFile) (replay : Bool) : LogParser × Except Error (List String) :=
  let opened := { p with identity := some file.identity }
  match p.offset with
  | none =>
    if replay then opened.takeFrom file 0 else ({ opened with offset := some file.size }, .ok [])
  | some offset =>
    if offset ≤ file.size ∧ !p.isReplaced file then opened.takeFrom file offset
    else { opened with pending := none }.takeFrom file 0

/-- Opens the log file and takes the lines that were added to it. -/
def take (fs : FileSystem) (replay : Bool) : LogParser × Except Error (List String) :=
  match fs.openFile p.path with
  | .error fault => (p, .error (.logRead p.path fault))
  | .ok file => p.takeFile file replay

/-- Reads what was added to the log file. -/
def read (fs : FileSystem) (replay : Bool) : LogParser × Except Error (List Message) :=
  match p.take fs replay with
  | (p, .error e) => (p, .error e)
  | (p, .ok lines) =>
    let (pending, messages) := assembleAll p.rules p.pending lines
    ({ p with pending }, .ok messages)

end LogParser

end AerWatch.Log
