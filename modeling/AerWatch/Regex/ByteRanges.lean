import AerWatch.Unicode.CharSet

/-!
# Encoded ranges

The characters of a range, in UTF-8, make up sequences of bytes. `ByteRanges.ofRange` divides a range so that in
each part every byte runs through a range of its own, whatever the other bytes are.
-/

namespace AerWatch.Regex

open AerWatch.Unicode

/-- A range of values for each byte of encoded characters. -/
abbrev ByteRanges := List (Nat × Nat)

namespace ByteRanges

/-- The last code points that take one, two and three bytes. -/
def lastOfLength : List Nat := [0x7f, 0x7ff, 0xffff]

/-- The numbers of code points that share all bytes but the last one, two and three. -/
def blocks : List Nat := [0x40, 0x1000, 0x40000]

/-- Where a range is to be divided: in front of the code point that is told. -/
def division? (first last : Nat) : Option Nat :=
  if let some n := lastOfLength.find? fun n => decide (first ≤ n) && decide (n < last) then
    some (n + 1)
  else if last ≤ 0x7f then none
  else
    blocks.findSome? fun b =>
      if first / b = last / b then none
      else if first % b ≠ 0 then some ((first / b + 1) * b)
      else if last % b ≠ b - 1 then some (last / b * b)
      else none

/-- The ranges of the bytes between two encoded characters. -/
def between (first last : Nat) : ByteRanges :=
  ((String.utf8EncodeChar (Char.ofNat first)).zip (String.utf8EncodeChar (Char.ofNat last))).map
    fun (a, b) => (a.toNat, b.toNat)

/-- Divides a range without surrogates. A range is divided in this way no more than a dozen times
over. -/
def divided : Nat → Nat → Nat → List ByteRanges
  | 0, first, last => [between first last]
  | fuel + 1, first, last =>
    match division? first last with
    | none => [between first last]
    | some n => divided fuel first (n - 1) ++ divided fuel n last

/-- The encoded characters of a range, in order. Surrogates are no characters. -/
def ofRange (first last : Nat) : List ByteRanges :=
  if first < 0xe000 ∧ 0xd7ff < last then
    (if first ≤ 0xd7ff then divided 16 first 0xd7ff else []) ++
      (if 0xe000 ≤ last then divided 16 0xe000 last else [])
  else divided 16 first last

/-- The encoded characters of a set, in order. -/
def ofSet (s : CharSet) : List ByteRanges := s.ranges.flatMap fun (first, last) => ofRange first last

end ByteRanges

end AerWatch.Regex
