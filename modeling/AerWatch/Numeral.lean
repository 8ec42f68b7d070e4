/-!
# Numerals

Written numbers as they stand in device names, device tables and error messages: `parse?` reads an
unsigned number below a bound, `hex` writes one in hexadecimal with a least number of digits.
-/

namespace AerWatch.Numeral

/-- The value of a digit; letters of either case continue after `9`. -/
def digit? (c : Char) : Option Nat :=
  if '0' ≤ c ∧ c ≤ '9' then some (c.toNat - 48)
  else if 'a' ≤ c ∧ c ≤ 'f' then some (c.toNat - 87)
  else if 'A' ≤ c ∧ c ≤ 'F' then some (c.toNat - 55)
  else none

/-- Appends a digit to a number read so far. -/
def digitStep (base : Nat) (acc : Option Nat) (c : Char) : Option Nat :=
  match acc, digit? c with
  | some n, some d => if d < base then some (n * base + d) else none
  | _, _ => none

/-- The number written by digits of a base, of which there is at least one. -/
def ofDigits? (base : Nat) : List Char → Option Nat
  | [] => none
  | cs => cs.foldl (digitStep base) (some 0)

/-- Reads an unsigned number below `bound`. One leading plus sign is allowed, and any number of
leading zeros. -/
def parse? (base bound : Nat) (cs : List Char) : Option Nat :=
  let digits := match cs with
    | '+' :: rest => rest
    | _ => cs
  (ofDigits? base digits).filter (· < bound)

theorem lt_of_parse? {base bound n : Nat} {cs : List Char} (h : parse? base bound cs = some n) :
    n < bound := by
  simp only [parse?, Option.filter_eq_some_iff] at h
  simpa using h.2

/-- The hexadecimal digits of a number, in lower case and at least `width` of them. -/
def hex (width n : Nat) : List Char := (Nat.toDigits 16 n).leftpad width '0'

/-- The digits of a number after the mark `0x`, at least `width` characters in all. -/
def hexMarked (width n : Nat) : String := "0x" ++ String.ofList (hex (width - 2) n)

end AerWatch.Numeral
