/-!
# Blank characters

The characters with the Unicode property `White_Space`. They separate the fields of a device table
and are what `\s` matches in a pattern.
-/

namespace AerWatch.Unicode

/-- The characters with the property `White_Space`. -/
def isBlank (c : Char) : Bool :=
  let n := c.toNat
  (9 ≤ n && n ≤ 13) || n == 0x20 || n == 0x85 || n == 0xa0 || n == 0x1680 ||
    (0x2000 ≤ n && n ≤ 0x200a) || n == 0x2028 || n == 0x2029 || n == 0x202f || n == 0x205f ||
    n == 0x3000

end AerWatch.Unicode
