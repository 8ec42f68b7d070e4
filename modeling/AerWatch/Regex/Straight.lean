import AerWatch.Regex.Path

/-!
# Straight patterns

Most patterns for the fields of a message are texts around one run of characters. The way past such a
pattern has one choice, the end of the run: `Straight.find?` tries the ends in the order that the pattern
prefers.
-/

namespace AerWatch.Regex

open AerWatch.Unicode

/-- Characters of a set, at least `least` and at most `most` of them, as many as possible if
`greedy`. -/
structure Run where
  set : CharSet
  least : Nat
  most : Option Nat
  greedy : Bool

namespace Run

/-- The paths over up to `most` characters of a set, the shortest first. -/
def reach (s : CharSet) : Nat → Path → List Char → List Path
  | most + 1, p, c :: rest =>
    p :: (if s.mem c then reach s most (p.pass c rest) rest else [])
  | _, p, _ => [p]

/-- The paths to the ends of the run, the preferred one first. -/
def ends (r : Run) (p : Path) : List Path :=
  let ps := (reach r.set (r.most.getD p.rest.length) p p.rest).drop r.least
  if r.greedy then ps.reverse else ps

end Run

/-- A part of a way that is passed in one go. -/
inductive Leg where
  | text (cs : List Char)
  | set (s : CharSet)
  | look (l : Look)
  | openGroup
  | closeGroup (index : Nat)
  | run (r : Run)

/-- Whether a leg leaves a choice. -/
def Leg.isRun : Leg → Bool
  | run _ => true
  | text _ | set _ | look _ | openGroup | closeGroup _ => false

/-- The legs of a pattern without alternatives in which nothing but characters is repeated. -/
def Node.legs? : Node → Option (List Leg)
  | empty => some []
  | text cs => some [.text cs]
  | set s => some [.set s]
  | look l => some [.look l]
  | seq a b => do return (← a.legs?) ++ (← b.legs?)
  | alt _ _ => none
  | group i a => do return .openGroup :: (← a.legs?) ++ [.closeGroup i]
  | repetition a least most greedy => a.oneChar?.map fun s => [.run ⟨s, least, most, greedy⟩]

/-- A pattern with one run at most, by its legs. -/
structure Straight where
  legs : List Leg
  one_run : legs.countP Leg.isRun ≤ 1

namespace Straight

/-- A pattern as a straight one. -/
def ofNode? (n : Node) : Option Straight :=
  match n.legs? with
  | none => none
  | some legs => if h : legs.countP Leg.isRun ≤ 1 then some ⟨legs, h⟩ else none

/-- The preferred way past legs. -/
def pass? : List Leg → Path → Option Path
  | [], p => some p
  | .text cs :: legs, p => (p.passText? cs).bind (pass? legs)
  | .set s :: legs, p => (p.pass? s).bind (pass? legs)
  | .look l :: legs, p => (p.look? l).bind (pass? legs)
  | .openGroup :: legs, p => pass? legs p.openGroup
  | .closeGroup i :: legs, p => pass? legs (p.closeGroup i)
  | .run r :: legs, p => (r.ends p).findSome? (pass? legs)

/-- The way past the pattern from the first place on where there is one. -/
def findFrom? (s : Straight) (index : Nat) (before : Option Char) (cs : List Char) : Option Path :=
  match pass? s.legs { index, before, rest := cs } with
  | some p => some p
  | none =>
    match cs with
    | [] => none
    | c :: rest => findFrom? s (index + 1) (some c) rest

/-- The way of the first match in a text. -/
def find? (s : Straight) (cs : List Char) : Option Path := s.findFrom? 0 none cs

end Straight

end AerWatch.Regex
