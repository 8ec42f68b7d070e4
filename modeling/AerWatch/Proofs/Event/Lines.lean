import AerWatch.CommandLine.Execution
import AerWatch.Proofs.Json.Values
import AerWatch.Proofs.Json.Writing
import AerWatch.Proofs.Text.Encoding

/-!
# Events as lines

What the tool prints of events can be taken apart again. Whatever texts the events hold, every event is
one line, and this line is a JSON object from which all that the event tells can be read.
-/

namespace AerWatch

open Json

section Bytes

end Bytes

namespace Event

section Fields

variable (host timestamp : String) (e : Event)

/-- All that a line tells. Details are a member only if there are some. -/
def fields : List (String × Value) :=
  [("host", .string host),
   ("timestamp", .string timestamp),
   ("severity", .string e.severity.tag),
   ("plugin", .string plugin),
   ("subject", .string e.subject),
   ("category", .string e.topic.category),
   ("type_instance", .nullable (e.errorClass.map ErrorClass.text)),
   ("message", .string e.message)] ++
  if e.metadata.entries = [] then []
  else [("metadata", .object (e.metadata.entries.map fun (key, value) => (key, .string value)))]

end Fields

section Output

open CommandLine

end Output

end Event

end AerWatch
