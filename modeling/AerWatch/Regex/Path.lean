import AerWatch.Regex.Node

/-!
# Ways through a text

A `Path` is a way into a text with the groups that were closed on it. It passes one character at a
time.
-/

namespace AerWatch.Regex

open AerWatch.Unicode

/-- What a group holds: the first `length` characters of the text from its start on. -/
structure Capture where
  start : List Char
  length : Nat

def Capture.chars (c : Capture) : List Char := c.start.take c.length

/-- A way into a text: how many characters were passed, the last of them, the text that is left, the
places where groups were opened that are still open, and the groups that were closed, the latest
first. -/
structure Path where
  index : Nat
  before : Option Char
  rest : List Char
  opened : List (Nat × List Char) := []
  groups : List (Nat × Capture) := []

namespace Path

/-- Passes a character. -/
def pass (p : Path) (c : Char) (rest : List Char) : Path :=
  { p with index := p.index + 1, before := some c, rest }

/-- Passes a character of a set. -/
def pass? (s : CharSet) (p : Path) : Option Path :=
  match p.rest with
  | [] => none
  | c :: rest => if s.mem c then some (p.pass c rest) else none

/-- Passes the characters of a text. -/
def passText? : List Char → Path → Option Path
  | [], p => some p
  | c :: cs, p =>
    match p.rest with
    | [] => none
    | d :: rest => if d = c then passText? cs (p.pass d rest) else none

/-- Stays at a place where a condition holds. -/
def look? (l : Look) (p : Path) : Option Path :=
  if l.holds p.before p.rest.head? then some p else none

/-- Opens a group. -/
def openGroup (p : Path) : Path := { p with opened := (p.index, p.rest) :: p.opened }

/-- Closes the group that was opened last. -/
def closeGroup (group : Nat) (p : Path) : Path :=
  match p.opened with
  | [] => p
  | (index, start) :: opened =>
    { p with opened, groups := (group, ⟨start, p.index - index⟩) :: p.groups }

end Path

end AerWatch.Regex
