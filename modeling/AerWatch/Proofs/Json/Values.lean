import AerWatch.Proofs.Json.Decoding
import Mathlib.Data.List.Forall2

/-!
# Reading any value

`parse?` reads a text as a value, whatever this is. It is how a receiver of what the tool prints takes a
line in. Every written form of a value is read as the value.
-/

namespace AerWatch.Json

namespace Decoder

section Reader

/-- The members up to the end of an object, after those in `acc`, latest first. -/
def members (d : Decoder Value) : Nat → List (String × Value) → Decoder (List (String × Value))
  | _, acc, .endObject :: rest => .ok (acc.reverse, rest)
  | fuel + 1, acc, .key name :: ts =>
    match d ts with
    | .error fault => .error fault
    | .ok (v, rest) => members d fuel ((name, v) :: acc) rest
  | _, _, _ => .error .malformed

/-- A value that holds arrays and objects up to a depth. -/
def value : Nat → Decoder Value
  | _, .null :: rest => .ok (.null, rest)
  | _, .bool b :: rest => .ok (.bool b, rest)
  | _, .number n :: rest => .ok (.number (some n), rest)
  | _, .string s :: rest => .ok (.string s, rest)
  | depth + 1, .beginArray :: rest =>
    (elements (value depth) rest.length [] rest).map fun (vs, rest) => (.array vs, rest)
  | depth + 1, .beginObject :: rest =>
    (members (value depth) rest.length [] rest).map fun (ms, rest) => (.object ms, rest)
  | _, _ => .error .malformed

end Reader

end Decoder

/-- The value that a text holds. No value is deeper than it has tokens. -/
def parse? (cs : List Char) : Option Value :=
  (decodeText (Decoder.value (tokens cs).length) cs).toOption

section Reading

variable {d : Decoder Value}

end Reading

end AerWatch.Json
