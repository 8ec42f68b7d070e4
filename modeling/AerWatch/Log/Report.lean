import AerWatch.Event
import AerWatch.Log.Message

/-!
# Events of log messages

A message becomes an event by the names of its fields: the severity decides the class of the error, the
device is what the event is about, and all other fields are details. Of several fields in one role the
last one counts, and fields without a value do not count at all.
-/

namespace AerWatch.Log

/-- Whether a list stands within another one. -/
def isWithin (word : List Char) : List Char → Bool
  | [] => word.isEmpty
  | c :: rest => word.isPrefixOf (c :: rest) || isWithin word rest

theorem isWithin_iff {word cs : List Char} : isWithin word cs = true ↔ word <:+: cs := by
  induction cs with
  | nil => simp [isWithin]
  | cons c rest ih => simp [isWithin, ih, List.infix_cons_iff]

/-- Whether a word stands in a text, in letters of either case. -/
def holds (text word : String) : Bool := isWithin word.toList (text.toList.map Char.toLower)

/-- The class of an error by its severity in the log. The word for fatal errors stands within the word
for those that are not, too. -/
def classify (severity : String) : ErrorClass :=
  if holds severity "non-fatal" then .nonFatal
  else if holds severity "fatal" then .fatal
  else .correctable

/-- What a field tells about an error. -/
inductive Role where
  | severity
  | device
  | detail
deriving DecidableEq

/-- The role of a field, by the beginning of its name. -/
def Role.ofName (name : String) : Role :=
  if name.startsWith Field.severity then .severity
  else if name.startsWith Field.device then .device
  else .detail

namespace Message

variable (m : Message)

/-- The fields of a role that have a value, in order. -/
def inRole (role : Role) : List (String × String) :=
  m.items.filter fun (name, value) => value != "" && Role.ofName name == role

/-- The class of the error that the message reports, if it tells a severity. -/
def errorClass : Option ErrorClass :=
  ((m.inRole .severity).getLast?).map fun (_, value) => classify value

/-- The device that the message is about. -/
def subject : String := (((m.inRole .device).getLast?).map (·.2)).getD ""

/-- The event that announces the error. -/
def toEvent : Event :=
  let c := m.errorClass
  let severity := (c.map ErrorClass.severity).getD .warning
  let text := "AER " ++ (c.map ErrorClass.text).getD "" ++ " error reported in log"
  (m.inRole .detail).foldl (fun e (name, value) => e.withMetadata name value)
    (.pcieError severity m.subject c text)

end Message

end AerWatch.Log
