import AerWatch.Double
import AerWatch.Json.Fault

/-!
# Numbers of a JSON document

`Number.read?` reads a number from the front of a text. Digits are gathered in 64 bits; those that no
longer fit only move the decimal point. A number without point or exponent that fits 64 bits stays an
integer, all others are doubles, and a double beyond the largest one is refused.
-/

namespace AerWatch.Json

/-- The value of a decimal digit. -/
def decimal? (c : Char) : Option Nat := if c.isDigit then some (c.toNat - 48) else none

/-- Gathers digits while the number stays below `bound`. -/
def takeDigits (bound : Nat) : Nat → List Char → Nat × List Char
  | n, [] => (n, [])
  | n, c :: rest =>
    match decimal? c with
    | none => (n, c :: rest)
    | some d => if n * 10 + d < bound then takeDigits bound (n * 10 + d) rest else (n, c :: rest)

/-- The digits in front. -/
def digitCount (cs : List Char) : Nat := (cs.takeWhile Char.isDigit).length

namespace Number

/-- The end of 64-bit significands. -/
def significandEnd : Nat := UInt64.size

/-- The end of exponents; one that is longer stands for infinity or zero. -/
def exponentEnd : Nat := 0x80000000

/-- A double from the parts of its written form. -/
def ofParts? (positive : Bool) (significand : Nat) (exponent : Int) (rest : List Char) :
    Option (Number × List Char) :=
  (Double.ofParts? positive (.ofNat significand) exponent).map fun bits => (.double bits, rest)

/-- Reads an exponent after its mark, then gives the double. -/
def readExponent? (positive : Bool) (significand : Nat) (exponent : Int) (cs : List Char) :
    Option (Number × List Char) :=
  let (up, digits) := match cs with
    | '+' :: rest => (true, rest)
    | '-' :: rest => (false, rest)
    | _ => (true, cs)
  let count := digitCount digits
  if count = 0 then none
  else
    let (e, after) := takeDigits exponentEnd 0 digits
    if digitCount after = 0 then
      ofParts? positive significand (if up then exponent + e else exponent - e) after
    else if significand ≠ 0 ∧ up then none
    else ofParts? positive 0 0 (digits.drop count)

/-- Reads an exponent if one follows, then gives the double. -/
def readScaled? (positive : Bool) (significand : Nat) (exponent : Int) (cs : List Char) :
    Option (Number × List Char) :=
  match cs with
  | 'e' :: rest | 'E' :: rest => readExponent? positive significand exponent rest
  | _ => ofParts? positive significand exponent cs

/-- Reads the digits after a point. -/
def readFraction? (positive : Bool) (significand : Nat) (exponent : Int) (cs : List Char) :
    Option (Number × List Char) :=
  let count := digitCount cs
  if count = 0 then none
  else
    let (n, after) := takeDigits significandEnd significand cs
    let used := count - digitCount after
    readScaled? positive n (exponent - used) (cs.drop count)

/-- Gives the number whose digits before a point were read. -/
def readTail? (positive : Bool) (significand : Nat) (cs : List Char) : Option (Number × List Char) :=
  match cs with
  | '.' :: rest => readFraction? positive significand 0 rest
  | 'e' :: rest | 'E' :: rest => readExponent? positive significand 0 rest
  | _ =>
    if positive then some (.integer significand, cs)
    else if significand = 0 ∨ 0x8000000000000000 < significand then ofParts? false significand 0 cs
    else some (.integer (-significand), cs)

/-- Reads a number that has a sign or none before it. -/
def readUnsigned? (positive : Bool) (cs : List Char) : Option (Number × List Char) :=
  match cs with
  | '0' :: rest => if digitCount rest = 0 then readTail? positive 0 rest else none
  | _ =>
    let count := digitCount cs
    if count = 0 then none
    else
      let (n, after) := takeDigits significandEnd 0 cs
      let left := digitCount after
      if left = 0 then readTail? positive n after
      else
        match after.drop left with
        | '.' :: rest => readFraction? positive n left rest
        | rest => readScaled? positive n left rest

/-- Reads a number from the front of a text. -/
def read? (cs : List Char) : Option (Number × List Char) :=
  match cs with
  | '-' :: rest => readUnsigned? false rest
  | _ => readUnsigned? true cs

end Number

end AerWatch.Json
