import AerWatch.ConfigSpace

/-!
# Capability chains

A configuration space links its capability structures into two chains, the standard one and the extended
one. The links are not trusted: a `Walk` stops at the end mark, at a link back before the chain and
after as many entries as fit. `standard` and `extended` list what a whole walk meets, and
`findExpress` and `findAer` look for the two structures that hold error registers.
-/

namespace AerWatch

/-- The header of a capability structure. -/
structure Capability (ι : Type) where
  id : ι
  offset : UInt16
deriving DecidableEq

namespace Capability

/-- The Status register; one bit of it tells whether there is a standard chain. -/
def statusOffset : UInt16 := 0x06

def chainBit : UInt16 := 0x10

/-- The place of the link to the first entry of the standard chain. -/
def firstLinkOffset : UInt16 := 0x34

/-- The id of the PCI Express capability structure. -/
def expressId : UInt8 := 0x10

/-- The id that is read where no structure is implemented. -/
def endId : UInt8 := 0xff

/-- The place of the first entry of the extended chain. -/
def extendedStart : UInt16 := 0x100

/-- The id of the Advanced Error Reporting structure. -/
def aerId : UInt16 := 0x0001

/-- Standard entries take at least 4 of the 192 bytes after the header. -/
def maxStandard : Nat := 48

/-- Extended entries take at least 8 bytes of the extended space. -/
def maxExtended : Nat := 480

/-- The id in the header of an extended entry. -/
def extendedId (header : UInt32) : UInt16 := (header &&& 0xffff).toUInt16

/-- The link in the header of an extended entry; its two low bits are reserved. -/
def extendedLink (header : UInt32) : UInt16 := ((header >>> 20) &&& 0xffc).toUInt16

/-- A standard link; its two low bits are reserved. -/
def standardLink (byte : UInt8) : UInt16 := (byte &&& 0xfc).toUInt16

/-- How far a chain was followed: the place of the next entry, zero at the end, and how many entries
may still come. -/
structure Walk where
  pos : UInt16
  remaining : Nat
deriving DecidableEq

namespace Walk

variable {α : Type} (next : Walk → Option α × Walk)

/-- The entries of at most `fuel` steps, and how far they went. -/
def collect : Nat → Walk → List α × Walk
  | 0, w => ([], w)
  | fuel + 1, w =>
    match next w with
    | (none, w) => ([], w)
    | (some a, w) =>
      let (as, w) := collect fuel w
      (a :: as, w)

end Walk

section Chains

variable (s : ConfigSpace)

/-- The start of the standard chain. -/
def standardStart : Walk := ⟨standardLink (s.read8 firstLinkOffset), maxStandard⟩

/-- The next entry of the standard chain. -/
def nextStandard (w : Walk) : Option (Capability UInt8) × Walk :=
  if w.pos = 0 then (none, w)
  else
    match w.remaining with
    | 0 => (none, ⟨0, 0⟩)
    | n + 1 =>
      let id := s.read8 w.pos
      if id = endId then (none, ⟨0, n⟩)
      else (some ⟨id, w.pos⟩, ⟨standardLink (s.read8 (w.pos + 1)), n⟩)

/-- The start of the extended chain. -/
def extendedWalk : Walk := ⟨extendedStart, maxExtended⟩

/-- Where an extended entry leads: nowhere, if its link does not go past the start of the chain. -/
def follow (link : UInt16) : UInt16 := if link ≤ extendedStart then 0 else link

/-- The next entry of the extended chain. A first entry of zeros stands for an empty chain. -/
def nextExtended (w : Walk) : Option (Capability UInt16) × Walk :=
  if w.pos = 0 then (none, w)
  else
    match w.remaining with
    | 0 => (none, w)
    | n + 1 =>
      let header := s.read32 w.pos
      let id := extendedId header
      let link := extendedLink header
      if w.pos = extendedStart ∧ id = 0 ∧ link = 0 then (none, ⟨0, n⟩)
      else (some ⟨id, w.pos⟩, ⟨follow link, n⟩)

/-- The entries of the standard chain, and where the walk ended. -/
def walkStandard : List (Capability UInt8) × Walk :=
  Walk.collect (nextStandard s) (maxStandard + 1) (standardStart s)

/-- The entries of the extended chain, and where the walk ended. -/
def walkExtended : List (Capability UInt16) × Walk :=
  Walk.collect (nextExtended s) (maxExtended + 1) extendedWalk

def standard : List (Capability UInt8) := (walkStandard s).1

def extended : List (Capability UInt16) := (walkExtended s).1

/-- The offset of the PCI Express capability structure, if there is one. -/
def findExpress : Option UInt16 := ((standard s).find? (·.id == expressId)).map (·.offset)

/-- The offset of the Advanced Error Reporting structure, if there is one. -/
def findAer : Option UInt16 := ((extended s).find? (·.id == aerId)).map (·.offset)

end Chains

end Capability

end AerWatch
