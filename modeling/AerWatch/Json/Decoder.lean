import AerWatch.Json.Token

/-!
# Decoders

A decoder takes the tokens of one value from the front of a token list. `string`, `bool`, `size` and
`path` read single values, `optional` and `list` build on another decoder, and `record` reads a record
from an object, whose members stand in any order, or from an array of the members in their order.
-/

namespace AerWatch.Json

/-- Reads a value from the front of a token list. -/
abbrev Decoder (α : Type) := List Token → Except Fault (α × List Token)

/-- What a value token is called when something else was expected. -/
def Token.found? : Token → Option Found
  | null => some .null
  | bool value => some (.bool value)
  | number value => some (.number value)
  | string value => some (.string value)
  | beginArray => some .sequence
  | beginObject => some .map
  | key _ | endObject | endArray | malformed => none

/-- The fault of a value that is not of the expected kind. -/
def unexpected (expected : String) : List Token → Fault
  | [] => .malformed
  | token :: _ =>
    match token.found? with
    | some found => .wrongType found expected
    | none => .malformed

namespace Decoder

section Single

/-- A string, called `expected` in messages. -/
def text (expected : String) : Decoder String
  | .string value :: rest => .ok (value, rest)
  | ts => .error (unexpected expected ts)

def string : Decoder String := text "a string"

/-- A string that is the path of a file. -/
def path : Decoder String := text "path string"

def bool : Decoder Bool
  | .bool value :: rest => .ok (value, rest)
  | ts => .error (unexpected "a boolean" ts)

/-- A number that counts or numbers something. -/
def size : Decoder Nat
  | .number (.integer value) :: rest =>
    if 0 ≤ value then .ok (value.toNat, rest)
    else .error (.wrongValue (.number (.integer value)) "usize")
  | ts => .error (unexpected "usize" ts)

end Single

section Composed

variable {α : Type} (d : Decoder α)

/-- `null`, or a value. -/
def optional : Decoder (Option α)
  | .null :: rest => .ok (none, rest)
  | ts => (d ts).map fun (a, rest) => (some a, rest)

/-- The elements up to the end of an array, after those in `acc`, latest first. -/
def elements : Nat → List α → Decoder (List α)
  | _, acc, .endArray :: rest => .ok (acc.reverse, rest)
  | 0, _, _ => .error .malformed
  | fuel + 1, acc, ts =>
    match d ts with
    | .error fault => .error fault
    | .ok (a, rest) => elements fuel (a :: acc) rest

/-- An array. -/
def list : Decoder (List α)
  | .beginArray :: rest => elements d rest.length [] rest
  | ts => .error (unexpected "a sequence" ts)

end Composed

end Decoder

/-- A member of a record under construction. -/
structure Member (δ : Type) where
  name : String
  required : Bool
  /-- Whether the draft has the member already. -/
  isSet : δ → Bool
  /-- Reads the member into the draft. -/
  read : δ → Decoder δ

/-- How a record is read: its name in messages, its members in their order, and the record that a
draft with all required members stands for. -/
structure Record (δ α : Type) where
  title : String
  empty : δ
  members : List (Member δ)
  finish : δ → Option α

namespace Record

variable {δ α : Type} (r : Record δ α)

def names : List String := r.members.map (·.name)

/-- The fault of the first required member that is absent. -/
def missing? (draft : δ) : Option Fault :=
  (r.members.find? fun m => m.required && !m.isSet draft).map fun m => .missingField m.name

/-- Ends a record that was given as an object. -/
def close (draft : δ) : Except Fault α :=
  match r.missing? draft with
  | some fault => .error fault
  | none =>
    match r.finish draft with
    | some a => .ok a
    | none => .error .malformed

/-- The members of an object, in any order. A key is judged before its value is read. -/
def object : Nat → δ → Decoder α
  | _, draft, .endObject :: rest => (r.close draft).map fun a => (a, rest)
  | 0, _, _ => .error .malformed
  | fuel + 1, draft, .key name :: rest =>
    match r.members.find? (·.name == name) with
    | none => .error (.unknownField name r.names)
    | some m =>
      if m.isSet draft then .error (.duplicateField name)
      else
        match m.read draft rest with
        | .error fault => .error fault
        | .ok (draft, rest) => object fuel draft rest
  | _ + 1, _, _ => .error .malformed

/-- The members of an array, in their order; those at the end may be absent unless required. -/
def array : List (Member δ) → Nat → δ → Decoder α
  | ms, done, draft, .endArray :: rest =>
    if ms.any (·.required) then .error (.wrongLength done r.title)
    else (r.close draft).map fun a => (a, rest)
  | [], _, _, _ => .error .malformed
  | m :: ms, done, draft, ts =>
    match m.read draft ts with
    | .error fault => .error fault
    | .ok (draft, rest) => array ms (done + 1) draft rest

/-- The number of members, as it stands in a message on the length of an array. -/
def titleWithSize : String := r.title ++ " with " ++ toString r.members.length ++ " elements"

/-- A record. -/
def decoder : Decoder α
  | .beginObject :: rest => r.object rest.length r.empty rest
  | .beginArray :: rest => { r with title := r.titleWithSize }.array r.members 0 r.empty rest
  | ts => .error (unexpected r.title ts)

end Record

/-- Reads a text that holds one value and nothing else. -/
def decodeText {α : Type} (d : Decoder α) (cs : List Char) : Except Fault α :=
  match d (tokens cs) with
  | .error fault => .error fault
  | .ok (a, []) => .ok a
  | .ok (_, _ :: _) => .error .malformed

end AerWatch.Json
