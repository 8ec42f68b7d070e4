/-!
# Sets of characters

A `CharSet` holds the code points of a set as sorted, disjoint, inclusive ranges. In tables a set is
written as lines of words: numbers in base 36 that alternate the length of a gap with the length of the
range after it.
-/

namespace AerWatch.Unicode

/-- The number written by base-36 digits, `0` to `9` then `a` to `z`. -/
def base36 (digits : List Char) : Nat :=
  digits.foldl (fun n c => n * 36 + (if c.isDigit then c.toNat - 48 else c.toNat - 87)) 0

/-- The last code point. -/
def lastCode : Nat := 0x10ffff

/-- A set of code points as sorted, disjoint, inclusive ranges. -/
structure CharSet where
  ranges : List (Nat × Nat)
deriving DecidableEq

namespace CharSet

section Membership

/-- Whether a number lies in one of sorted ranges. -/
def search (n : Nat) : List (Nat × Nat) → Bool
  | [] => false
  | (first, last) :: rest => if last < n then search n rest else decide (first ≤ n)

/-- Whether a code point is in the set. -/
def contains (s : CharSet) (n : Nat) : Bool := search n s.ranges

/-- Whether a character is in the set. -/
def mem (s : CharSet) (c : Char) : Bool := s.contains c.toNat

end Membership

section Construction

/-- Puts a range in front of ranges that begin no earlier, and joins those that touch. -/
def joinFrom (r : Nat × Nat) : List (Nat × Nat) → List (Nat × Nat)
  | [] => [r]
  | q :: rest =>
    if q.1 ≤ r.2 + 1 then joinFrom (r.1, max r.2 q.2) rest else r :: joinFrom q rest

/-- Joins the ranges that touch among ranges in order of their first code points. -/
def join : List (Nat × Nat) → List (Nat × Nat)
  | [] => []
  | r :: rest => joinFrom r rest

/-- The set of the code points of ranges in any order. -/
def ofRanges (rs : List (Nat × Nat)) : CharSet := ⟨join (rs.mergeSort fun r q => r.1 ≤ q.1)⟩

def empty : CharSet := ⟨[]⟩

/-- The set of all characters. -/
def all : CharSet := ⟨[(0, lastCode)]⟩

/-- The set of one character. -/
def single (c : Char) : CharSet := ⟨[(c.toNat, c.toNat)]⟩

/-- The characters from one to another. -/
def range (first last : Char) : CharSet := ⟨[(first.toNat, last.toNat)]⟩

/-- The set of the characters of a list. -/
def ofList (cs : List Char) : CharSet := ofRanges (cs.map fun c => (c.toNat, c.toNat))

/-- Reads the written form from a code point on. -/
def readWords (next : Nat) : List (List Char) → List (Nat × Nat)
  | gap :: length :: rest =>
    let first := next + base36 gap
    let stop := first + base36 length
    (first, stop - 1) :: readWords stop rest
  | _ => []

/-- Reads the written form, given as lines. -/
def ofLines (lines : List String) : CharSet :=
  ⟨readWords 0 (lines.flatMap fun line => line.toList.splitOn ' ')⟩

end Construction

section Operations

variable (s t : CharSet)

def union : CharSet := ofRanges (s.ranges ++ t.ranges)

/-- The union of any number of sets. -/
def unions (sets : List CharSet) : CharSet := ofRanges (sets.flatMap ranges)

/-- The ranges between sorted ranges, from a code point on. -/
def gapsFrom (next : Nat) : List (Nat × Nat) → List (Nat × Nat)
  | [] => if next ≤ lastCode then [(next, lastCode)] else []
  | (first, last) :: rest =>
    if next < first then (next, first - 1) :: gapsFrom (last + 1) rest else gapsFrom (last + 1) rest

/-- The code points that are not in the set. -/
def complement : CharSet := ⟨gapsFrom 0 s.ranges⟩

/-- What is meant by all characters but those of the set. Where nothing but the surrogates, which are no
characters, lies between two ranges, the two ends next to them are taken. -/
def negate : CharSet :=
  ⟨s.complement.ranges.map fun r => if r = (0xd800, 0xdfff) then (0xd7ff, 0xe000) else r⟩

def inter : CharSet := (s.complement.union t.complement).complement

def diff : CharSet := (s.complement.union t).complement

def symmDiff : CharSet := (s.union t).diff (s.inter t)

end Operations

end CharSet

end AerWatch.Unicode
