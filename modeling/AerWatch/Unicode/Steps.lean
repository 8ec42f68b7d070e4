import AerWatch.Unicode.CharSet

/-!
# Values of code points

`Steps α` is a function from code points to `α` that is constant between the listed starts. In tables it
is written as words, each of which names a value and the length of its run in base 36. `Steps.select`
gives the set of the code points whose value passes a test.
-/

namespace AerWatch.Unicode

/-- A function on code points that is constant between the listed starts, which are in order. -/
structure Steps (α : Type) where
  starts : List (Nat × α)

namespace Steps

variable {α : Type}

/-- The ranges on which the value passes a test. -/
def selectFrom (p : α → Bool) : List (Nat × α) → List (Nat × Nat)
  | [] => []
  | [(first, value)] => if p value then [(first, lastCode)] else []
  | (first, value) :: (next, v) :: rest =>
    let after := selectFrom p ((next, v) :: rest)
    if p value then (first, next - 1) :: after else after

/-- The code points whose value passes a test. -/
def select (p : α → Bool) (s : Steps α) : CharSet := ⟨CharSet.join (selectFrom p s.starts)⟩

/-- Reads words from a code point on. The first `width` characters of a word name the value of a run and
the rest is its length. -/
def readWords (width : Nat) (value : String → α) (first : Nat) : List (List Char) → List (Nat × α)
  | [] => []
  | word :: rest =>
    (first, value (String.ofList (word.take width))) ::
      readWords width value (first + base36 (word.drop width)) rest

/-- Reads the written form, given as lines. -/
def ofLines (width : Nat) (value : String → α) (lines : List String) : Steps α :=
  ⟨readWords width value 0 (lines.flatMap fun line => line.toList.splitOn ' ')⟩

end Steps

end AerWatch.Unicode
