/-!
# Doubles in decimal

`ofParts?` scales a decimal significand by a power of ten in double arithmetic; `text` writes a double,
given by its bits, with the fewest decimal digits that read back, positionally for exponents from -5
to 15 and in scientific notation beyond.
-/

namespace AerWatch.Double

/-- Ten to a power as the nearest double. -/
def powerOfTen (n : Nat) : Float := Float.ofScientific 1 false n

/-- Scales by ten to a power in steps of at most 308. Nothing is left of a value that became
infinite; one that became zero stays. -/
def scale? : Nat → Float → Int → Option Float
  | 0, f, _ => some f
  | fuel + 1, f, exponent =>
    if exponent.natAbs ≤ 308 then
      if exponent < 0 then some (f / powerOfTen exponent.natAbs)
      else
        let g := f * powerOfTen exponent.natAbs
        if g.isInf then none else some g
    else if f == 0 then some f
    else if 0 ≤ exponent then none
    else scale? fuel (f / powerOfTen 308) (exponent + 308)

/-- The bits of `significand * 10 ^ exponent`, with a minus sign unless `positive`. Three steps of
scaling leave zero of every 64-bit significand. -/
def ofParts? (positive : Bool) (significand : UInt64) (exponent : Int) : Option UInt64 :=
  (scale? 4 significand.toFloat exponent).map fun f => (if positive then f else -f).toBits

/-- A power, one for an exponent below zero. -/
def power (base : Nat) (exponent : Int) : Nat := Nat.pow base exponent.toNat

/-- Fractions have 52 bits. -/
def fractionEnd : Nat := 0x10000000000000

/-- Biased exponents have 11 bits. -/
def biasedEnd : Nat := 0x800

/-- A positive double as `center / den`, with the ends of the interval that rounds to it. -/
structure Interval where
  low : Nat
  center : Nat
  high : Nat
  den : Nat
  closed : Bool

/-- The interval of the reals that round to the double with a biased exponent and a fraction. -/
def Interval.ofFields (biased fraction : Nat) : Interval :=
  let m := if biased = 0 then fraction else fraction + fractionEnd
  let q : Int := (if biased = 0 then (1 : Int) else biased) - 1077
  let below := if fraction = 0 ∧ 1 < biased then 1 else 2
  let up := power 2 q
  ⟨(4 * m - below) * up, 4 * m * up, (4 * m + 2) * up, power 2 (-q), m % 2 == 0⟩

namespace Interval

/-- Whether `c * 10 ^ k` lies in the interval. -/
def contains (i : Interval) (c : Nat) (k : Int) : Bool :=
  let x := c * power 10 k * i.den
  let down := power 10 (-k)
  if i.closed then i.low * down ≤ x && x ≤ i.high * down
  else i.low * down < x && x < i.high * down

/-- The greatest decimal exponent `p ≤ start` with `10 ^ p ≤ center / den`, looking at `fuel` of
them. -/
def exponent (i : Interval) : Nat → Int → Int
  | 0, p => p
  | fuel + 1, p =>
    if power 10 p * i.den ≤ i.center * power 10 (-p) then p else exponent i fuel (p - 1)

/-- The point of the grid of `10 ^ k` in the interval that is nearest to its center. -/
def nearest? (i : Interval) (k : Int) : Option Nat :=
  let num := i.center * power 10 (-k)
  let den := i.den * power 10 k
  let c := num / den
  match i.contains c k, i.contains (c + 1) k with
  | true, true => some (if 2 * (num % den) < den ∨ 2 * (num % den) = den ∧ c % 2 = 0 then c else c + 1)
  | true, false => some c
  | false, true => some (c + 1)
  | false, false => none

/-- The first grid, of those with `n` and more digits, that has a point in the interval. -/
def shortest (i : Interval) (p : Int) : Nat → Nat → Nat × Int
  | 0, n => (i.center / i.den, p - n + 1)
  | fuel + 1, n =>
    match i.nearest? (p - n + 1) with
    | some c => (c, p - n + 1)
    | none => shortest i p fuel (n + 1)

end Interval

/-- Drops the zeros at the end of a significand. -/
def stripZeros : Nat → Nat → Int → Nat × Int
  | 0, c, k => (c, k)
  | fuel + 1, c, k => if c % 10 = 0 ∧ c ≠ 0 then stripZeros fuel (c / 10) (k + 1) else (c, k)

/-- Writes `c * 10 ^ k`. -/
def layout (c : Nat) (k : Int) : List Char :=
  let ds := Nat.toDigits 10 c
  let p : Int := k + ds.length - 1
  if -5 ≤ p ∧ p ≤ 15 then
    if 0 ≤ k then ds ++ List.replicate k.toNat '0' ++ ['.', '0']
    else if 0 ≤ p then ds.take (p.toNat + 1) ++ '.' :: ds.drop (p.toNat + 1)
    else '0' :: '.' :: List.replicate ((-p).toNat - 1) '0' ++ ds
  else
    let tail := if ds.length = 1 then [] else '.' :: ds.drop 1
    let sign := if p < 0 then '-' else '+'
    ds.take 1 ++ tail ++ 'e' :: sign :: Nat.toDigits 10 p.natAbs

/-- Writes a finite double with the fewest digits that read back. -/
def text (bits : UInt64) : String :=
  let n := bits.toNat
  let biased := n / fractionEnd % biasedEnd
  let fraction := n % fractionEnd
  let sign := if n < fractionEnd * biasedEnd then [] else ['-']
  if biased = 0 ∧ fraction = 0 then String.ofList (sign ++ ['0', '.', '0'])
  else
    let i := Interval.ofFields biased fraction
    let (c, k) := i.shortest (i.exponent 640 308) 17 1
    let (c, k) := stripZeros 20 c k
    String.ofList (sign ++ layout c k)

end AerWatch.Double
