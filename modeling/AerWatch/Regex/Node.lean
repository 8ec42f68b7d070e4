import AerWatch.Regex.NamedSet

/-!
# Patterns as trees

The parts a pattern is made of, with all flags resolved. The functions that put parts together,
`Node.concat`, `Node.alternation` and `Node.times`, simplify on the way: texts that stand side by side
become one text, alternatives of one character each become a set, and what all alternatives begin with is
taken out of them.
-/

namespace AerWatch.Regex

open AerWatch.Unicode

/-- How a word may stand around a place. -/
inductive WordEdge where
  | boundary
  | noBoundary
  | start
  | stop
  | startHalf
  | stopHalf
deriving DecidableEq

/-- A condition on a place between two characters. -/
inductive Look where
  | textStart
  | textEnd
  /-- The start of a line, where `crlf` tells whether a carriage return ends lines, too. -/
  | lineStart (crlf : Bool)
  | lineEnd (crlf : Bool)
  /-- An edge of words, of all scripts or of ASCII. -/
  | word (edge : WordEdge) (unicode : Bool)
deriving DecidableEq

namespace Look

/-- Whether the edge lies between a part that is of a word or not, and another. -/
def edgeHolds (edge : WordEdge) (before after : Bool) : Bool :=
  match edge with
  | .boundary => before != after
  | .noBoundary => before == after
  | .start => !before && after
  | .stop => before && !after
  | .startHalf => !before
  | .stopHalf => !after

/-- Whether the condition holds between two characters, where `none` is an end of the text. -/
def holds (l : Look) (before after : Option Char) : Bool :=
  match l with
  | textStart => before.isNone
  | textEnd => after.isNone
  | lineStart false => before.isNone || before == some '\n'
  | lineStart true =>
    before.isNone || before == some '\n' || (before == some '\r' && after != some '\n')
  | lineEnd false => after.isNone || after == some '\n'
  | lineEnd true =>
    after.isNone || after == some '\r' || (after == some '\n' && before != some '\r')
  | word edge unicode =>
    let inWord := if unicode then NamedSet.word else NamedSet.asciiWord
    edgeHolds edge (before.any inWord.mem) (after.any inWord.mem)

end Look

/-- A pattern. -/
inductive Node where
  | empty
  /-- The characters of a text, at least one, in order. -/
  | text (cs : List Char)
  | set (s : CharSet)
  | look (l : Look)
  | seq (a b : Node)
  /-- Either part, the first one preferred. -/
  | alt (a b : Node)
  | group (index : Nat) (a : Node)
  /-- At least `least` and at most `most` times, as often as possible if `greedy`. -/
  | repetition (a : Node) (least : Nat) (most : Option Nat) (greedy : Bool)
deriving DecidableEq

namespace Node

section Lengths

/-- Whether the pattern matches no text but the empty one. -/
def isPlace : Node → Bool
  | empty | look _ => true
  | text cs => cs.isEmpty
  | set _ => false
  | seq a b => a.isPlace && b.isPlace
  | alt a b => a.isPlace && b.isPlace
  | group _ a => a.isPlace
  | repetition a _ most _ => a.isPlace || most == some 0

/-- The least length of a text that the pattern matches. It is not told for a pattern with a character
of the empty set. -/
def minLength? : Node → Option Nat
  | empty | look _ => some 0
  | text cs => some cs.length
  | set s => if s.ranges.isEmpty then none else some 1
  | seq a b => do return (← a.minLength?) + (← b.minLength?)
  | alt a b => do return min (← a.minLength?) (← b.minLength?)
  | group _ a => a.minLength?
  | repetition a least _ _ => a.minLength?.map (· * least)

/-- Whether the pattern is known to match only texts with a character. -/
def takesSome (n : Node) : Bool := n.minLength?.any (0 < ·)

/-- The set of which the pattern matches one character, if it is such a pattern. -/
def oneChar? : Node → Option CharSet
  | text [c] => some (.single c)
  | set s => some s
  | _ => none

/-- The number of the constructors. -/
def size : Node → Nat
  | seq a b | alt a b => a.size + b.size + 1
  | group _ a | repetition a _ _ _ => a.size + 1
  | empty | text _ | set _ | look _ => 1

end Lengths

section Sequences

/-- The parts that stand one after the other. -/
def parts : Node → List Node
  | empty => []
  | seq a b => a.parts ++ b.parts
  | n => [n]

/-- Joins the texts that stand side by side. -/
def joinTexts : List Node → List Node
  | [] => []
  | text a :: rest =>
    match joinTexts rest with
    | text b :: after => text (a ++ b) :: after
    | after => text a :: after
  | n :: rest => n :: joinTexts rest

/-- Parts one after the other, as they are. -/
def ofParts : List Node → Node
  | [] => empty
  | [n] => n
  | n :: rest => seq n (ofParts rest)

/-- Patterns one after the other. -/
def concat (ns : List Node) : Node := ofParts (joinTexts (ns.flatMap parts))

end Sequences

section Alternatives

/-- The pattern of a set. A set of one character makes a text. -/
def ofSet (s : CharSet) : Node :=
  match s.ranges with
  | [(first, last)] => if first = last then text [Char.ofNat first] else set s
  | _ => set s

/-- The alternatives of a pattern. -/
def branches : Node → List Node
  | alt a b => a.branches ++ b.branches
  | n => [n]

/-- Alternatives, as they are. -/
def ofBranches : List Node → Node
  | [] => set .empty
  | [n] => n
  | n :: rest => alt n (ofBranches rest)

/-- The character of a text of one character. -/
def char? : Node → Option Char
  | text [c] => some c
  | _ => none

/-- The set of a pattern that is one. -/
def set? : Node → Option CharSet
  | set s => some s
  | _ => none

/-- The set that stands for alternatives all of which are characters, or all of which are sets. -/
def oneOf? (bs : List Node) : Option CharSet :=
  ((bs.mapM char?).map CharSet.ofList).or ((bs.mapM set?).map CharSet.unions)

/-- The beginning that two lists have in common. -/
def common : List Node → List Node → List Node
  | a :: as, b :: bs => if a = b then a :: common as bs else []
  | _, _ => []

/-- The parts that all alternatives begin with, and what is left of the alternatives, if there are any
such parts and each alternative is a sequence. -/
def takeOut? (bs : List Node) : Option (List Node × List Node) :=
  let sequences := bs.map parts
  match sequences with
  | [] => none
  | first :: rest =>
    let front := rest.foldl common first
    if front.isEmpty || sequences.any (·.length < 2) then none
    else some (front, sequences.map fun ps => ofParts (ps.drop front.length))

/-- Alternatives, simplified in `fuel` steps at most. -/
def alternationWithin : Nat → List Node → Node
  | 0, ns => ofBranches ns
  | fuel + 1, ns =>
    let bs := ns.flatMap branches
    if bs.length < 2 then ofBranches bs
    else
      match oneOf? bs with
      | some s => ofSet s
      | none =>
        match takeOut? bs with
        | some (front, rests) => concat (front ++ [alternationWithin fuel rests])
        | none => ofBranches bs

/-- Patterns as alternatives. A step that takes something out leaves less. -/
def alternation (ns : List Node) : Node :=
  alternationWithin (ns.foldl (fun total n => total + n.size) 0) ns

end Alternatives

/-- A pattern repeated. Once is enough for a pattern that matches only the empty text. -/
def times (a : Node) (least : Nat) (most : Option Nat) (greedy : Bool) : Node :=
  let (least, most) :=
    if a.isPlace then (min least 1, some (min (most.getD 1) 1)) else (least, most)
  if least = 0 ∧ most = some 0 then empty
  else if least = 1 ∧ most = some 1 then a
  else repetition a least most greedy

end Node

end AerWatch.Regex
