import AerWatch.Double
import AerWatch.Quoted

/-!
# Faults of a JSON document

`Fault` says why a document was refused. A fault of the text itself has no detail; a fault of the
content says what was found and what was expected. `Fault.message` is its wording.
-/

namespace AerWatch.Json

/-- A number as it was read: an integer of 64 bits, signed or not, or a double by its bits. -/
inductive Number where
  | integer (value : Int)
  | double (bits : UInt64)
deriving DecidableEq

/-- What stands in the document in place of the expected value. -/
inductive Found where
  | null
  | bool (value : Bool)
  | number (value : Number)
  | string (value : String)
  | sequence
  | map
deriving DecidableEq

/-- The name of what was found. -/
def Found.text : Found → String
  | null => "null"
  | bool true => "boolean `true`"
  | bool false => "boolean `false`"
  | number (.integer value) => "integer `" ++ toString value ++ "`"
  | number (.double bits) => "floating point `" ++ Double.text bits ++ "`"
  | string value => "string " ++ Quoted.quote value
  | sequence => "sequence"
  | map => "map"

/-- Why a document was refused. -/
inductive Fault where
  /-- The text is not JSON, or ends too early. -/
  | malformed
  | wrongType (found : Found) (expected : String)
  | wrongValue (found : Found) (expected : String)
  | wrongLength (length : Nat) (expected : String)
  | unknownField (name : String) (fields : List String)
  | missingField (name : String)
  | duplicateField (name : String)
deriving DecidableEq

namespace Fault

def ticked (name : String) : String := "`" ++ name ++ "`"

/-- The names of the fields that would have been allowed. -/
def fieldList : List String → String
  | [] => "there are no fields"
  | [a] => "expected " ++ ticked a
  | [a, b] => "expected " ++ ticked a ++ " or " ++ ticked b
  | names => "expected one of " ++ ", ".intercalate (names.map ticked)

/-- The wording of a fault. -/
def message : Fault → String
  | malformed => "syntax"
  | wrongType found expected => "invalid type: " ++ found.text ++ ", expected " ++ expected
  | wrongValue found expected => "invalid value: " ++ found.text ++ ", expected " ++ expected
  | wrongLength length expected => "invalid length " ++ toString length ++ ", expected " ++ expected
  | unknownField name fields => "unknown field " ++ ticked name ++ ", " ++ fieldList fields
  | missingField name => "missing field " ++ ticked name
  | duplicateField name => "duplicate field " ++ ticked name

end Fault

end AerWatch.Json
