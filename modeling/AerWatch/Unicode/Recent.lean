import AerWatch.Unicode.Property.Named

/-!
# Recent characters

The tables follow one version of the standard. Messages and the names of groups follow the version after
it: the sets here add the characters that are new there.
-/

namespace AerWatch.Unicode.Recent

/-- The characters that are new. -/
def added : CharSet := .ofLines
  ["1ov 1 r0 1 3j 1 2r6 f 2 c 15h 1 250 1 ojb 2 2 1 1 1 s 1 gk1 g cd 2 1i 7 29d q 12j 3 8 9 x 2",
   "2g4 8 g8 18 4 a fxy p 2 p 7y 5 4qp 8 zt m 2p 37 cg7 3 cd n f h 4pb v 1 m 8 2 34o 1 4e 4 9h 9",
   "aj 4 1e 1 3 1 1l 1 4 1 s 1 4 1 7e 1 10zj 6 4ma c gsi 3be"]

/-- The letters among them. -/
def addedLetters : CharSet := .ofLines
  ["1ov 1 r0 1 3j 1 ult 2 2 1 1 1 s 1 j7y q 12j 3 1e 2 2g4 8 g8 18 fyc p 2 p 7y 5 4qp 8 zt m 2p",
   "37 hjh v 1 m 8 2 154q 6 4ma c gsi 3be"]

/-- The marks among them that join the character before. -/
def addedMarks : CharSet := .ofLines
  ["5an f 2 c 1c7i 2 2g4 1 1 3 1 1 1470 1 2 1 7 2 5 1"]

/-- The numbers among them. -/
def addedNumbers : CharSet := .ofLines
  ["1kgw a g7e 3"]

def alphabetic : CharSet := Property.alphabetic.union addedLetters

def numeric : CharSet := (Category.charSet [.nd, .nl, .no]).union addedNumbers

/-- Marks that join the character before. -/
def joining : CharSet :=
  (Property.graphemeExtend.inter (Category.charSet [.mn, .mc, .me])).union addedMarks

/-- The characters that cannot be seen on their own: controls, formats, private and unassigned
characters, separators, marks that join the character before, and letters that are drawn as nothing. -/
def hidden : CharSet :=
  .unions [(Category.charSet [.cc, .cf, .cs, .co, .cn, .zl, .zp, .zs]).diff added, joining,
    Property.defaultIgnorableCodePoint]

end AerWatch.Unicode.Recent
