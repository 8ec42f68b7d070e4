/-!
# UTF-8

Decoding of bytes to characters by a machine that holds the unfinished character. `decodeWith` puts a
stand-in where bytes form no character, one for each longest run that could have begun one, and
`decode?` refuses such bytes. A byte below 128 always ends an unfinished character, so a line break
is never swallowed by what stands before it.
-/

namespace AerWatch.Utf8

/-- Where the machine stands between two bytes. -/
inductive State where
  /-- Between characters. -/
  | start
  /-- Inside a character: `more` bytes are owed after the next one, which lies between `low` and
  `high`; `value` holds the bits read so far. -/
  | inside (more low high value : Nat)
deriving DecidableEq

/-- A byte that begins a character: the character if it is complete, and where the machine stands
then. Bytes that begin none are reported as `none`. -/
def lead (b : Nat) : List (Option Char) × State :=
  if b < 0x80 then ([some (Char.ofNat b)], .start)
  else if b < 0xc2 then ([none], .start)
  else if b < 0xe0 then ([], .inside 0 0x80 0xbf (b - 0xc0))
  else if b = 0xe0 then ([], .inside 1 0xa0 0xbf 0)
  else if b = 0xed then ([], .inside 1 0x80 0x9f (b - 0xe0))
  else if b < 0xf0 then ([], .inside 1 0x80 0xbf (b - 0xe0))
  else if b = 0xf0 then ([], .inside 2 0x90 0xbf 0)
  else if b < 0xf4 then ([], .inside 2 0x80 0xbf (b - 0xf0))
  else if b = 0xf4 then ([], .inside 2 0x80 0x8f (b - 0xf0))
  else ([none], .start)

/-- One byte: what is read by it, and where the machine stands then. -/
def step : State → UInt8 → List (Option Char) × State
  | .start, b => lead b.toNat
  | .inside more low high value, b =>
    if low ≤ b.toNat ∧ b.toNat ≤ high then
      let value := value * 64 + (b.toNat - 0x80)
      match more with
      | 0 => ([some (Char.ofNat value)], .start)
      | more + 1 => ([], .inside more 0x80 0xbf value)
    else
      let (read, next) := lead b.toNat
      (none :: read, next)

/-- What an unfinished character at the end is read as. -/
def State.finish : State → List (Option Char)
  | .start => []
  | .inside .. => [none]

/-- The characters read so far, latest first, and the state of the machine. -/
structure Progress where
  read : List (Option Char)
  state : State

namespace Progress

def step (p : Progress) (b : UInt8) : Progress :=
  let (read, state) := Utf8.step p.state b
  ⟨read.reverseAux p.read, state⟩

/-- The characters in order, an unfinished one included. -/
def toList (p : Progress) : List (Option Char) := (p.state.finish ++ p.read).reverse

end Progress

/-- The characters of a byte string, with `none` for each longest run that forms none. -/
def decode (bytes : List UInt8) : List (Option Char) :=
  (bytes.foldl Progress.step ⟨[], .start⟩).toList

/-- The characters of a byte string, with `mark` for each longest run that forms none. -/
def decodeWith (mark : Char) (bytes : List UInt8) : List Char :=
  (decode bytes).map (·.getD mark)

/-- The text of a byte string, with the replacement character for what forms no character. -/
def decodeLossy (bytes : List UInt8) : List Char := decodeWith '\uFFFD' bytes

/-- The text of a byte string that is well formed throughout. -/
def decode? (bytes : List UInt8) : Option (List Char) :=
  let read := decode bytes
  if read.all Option.isSome then some (read.filterMap id) else none

/-- The bytes of a text. -/
def encode (text : String) : List UInt8 := text.toUTF8.toList

end AerWatch.Utf8
