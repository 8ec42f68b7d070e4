import AerWatch.Regex.Automaton
import AerWatch.Regex.Reader
import AerWatch.Regex.Straight

/-!
# Regular expressions

`Regex.ofPattern` reads a pattern and `Regex.find?` searches a text with it. The match that begins
leftmost is found, and of those that begin there the one that the pattern prefers.
-/

namespace AerWatch

/-- A regular expression. -/
inductive Regex where
  | straight (s : Regex.Straight)
  | laidOut (a : Regex.Automaton)

namespace Regex

/-- A match: the groups that took part in it. The whole match is group zero. -/
structure Match where
  groups : List (Nat × Capture)

/-- What a group holds. -/
def Match.group? (m : Match) (index : Nat) : Option String :=
  (m.groups.lookup index).map fun c => String.ofList c.chars

/-- The expression of a pattern that was read. -/
def ofNode (n : Node) : Regex :=
  match Straight.ofNode? n with
  | some s => .straight s
  | none => .laidOut (.ofNode n)

/-- Reads a pattern. -/
def ofPattern (pattern : String) : Except Fault Regex := (readPattern pattern).map ofNode

/-- The first match in a text. -/
def find? (r : Regex) (text : String) : Option Match :=
  let found := match r with
    | straight s => s.find? text.toList
    | laidOut a => a.find? text.toList
  found.map fun p => ⟨p.groups⟩

/-- Whether there is a match in a text. -/
def isMatch (r : Regex) (text : String) : Bool := (r.find? text).isSome

end Regex

end AerWatch
