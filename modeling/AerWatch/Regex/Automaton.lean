import AerWatch.Regex.Path
import Std.Data.HashSet

/-!
# Patterns as automata

`Automaton.ofNode` lays a pattern out as states, and `Automaton.find?` follows all ways through them side
by side, the preferred one first. At each place of the text a state is entered once: a way that comes to it
later is given up. This decides what is matched where a round of a repetition need not take a character.
-/

namespace AerWatch.Regex

open AerWatch.Unicode
open Std (HashSet)

namespace Automaton

/-- What is done in a state, and the states to go on with. -/
inductive State where
  /-- Passes a character of a set. -/
  | pass (s : CharSet) (next : Nat)
  | look (l : Look) (next : Nat)
  | openGroup (next : Nat)
  | closeGroup (index : Nat) (next : Nat)
  /-- Goes on with either state, the first one preferred. -/
  | fork (first second : Nat)
  | accept

end Automaton

/-- States, of which one is the first. -/
structure Automaton where
  states : Array Automaton.State
  start : Nat

namespace Automaton

section Layout

/-- Lays out states. -/
abbrev Layout := StateM (Array State)

/-- Adds a state and tells its number. -/
def add (s : State) : Layout Nat := modifyGet fun states => (states.size, states.push s)

/-- The choice between a part and what comes after it. -/
def choice (greedy : Bool) (part after : Nat) : State :=
  if greedy then .fork part after else .fork after part

/-- A text in front of a state. -/
def layText : List Char → Nat → Layout Nat
  | [], next => pure next
  | c :: cs, next => do add (.pass (.single c) (← layText cs next))

variable (part : Nat → Layout Nat) (greedy : Bool)

/-- A part `count` times in front of a state. -/
def layTimes : Nat → Nat → Layout Nat
  | 0, next => pure next
  | count + 1, next => do layTimes count (← part next)

/-- A part at most `count` times in front of a state; `after` is where it is left early. -/
def layUpTo (after : Nat) : Nat → Nat → Layout Nat
  | 0, next => pure next
  | count + 1, next => do
    let entry ← part next
    layUpTo after count (← add (choice greedy entry after))

/-- A part any number of times, at least once. After each round it is gone back to the part or on. -/
def layRounds (next : Nat) : Layout Nat := do
  let again ← add .accept
  let entry ← part again
  modify (·.setIfInBounds again (choice greedy entry next))
  return entry

/-- A part that takes a character in each round, any number of times. It is entered where it is decided
on another round. -/
def layStar (next : Nat) : Layout Nat := do
  let again ← add .accept
  let entry ← part again
  modify (·.setIfInBounds again (choice greedy entry next))
  return again

end Layout

/-- Lays out a pattern in front of a state, and tells where it is entered. -/
def layOut : Node → Nat → Layout Nat
  | .empty, next => pure next
  | .text cs, next => layText cs next
  | .set s, next => add (.pass s next)
  | .look l, next => add (.look l next)
  | .seq a b, next => do layOut a (← layOut b next)
  | .alt a b, next => do
    let first ← layOut a next
    let second ← layOut b next
    add (.fork first second)
  | .group i a, next => do
    let inner ← layOut a (← add (.closeGroup i next))
    add (.openGroup inner)
  | .repetition a least most greedy, next =>
    match most, least with
    | some most, least => do
      let optional ← layUpTo (layOut a) greedy next (most - least) next
      layTimes (layOut a) least optional
    | none, 0 =>
      if a.takesSome then layStar (layOut a) greedy next
      else do
        let entry ← layRounds (layOut a) greedy next
        add (choice greedy entry next)
    | none, least + 1 => do
      let last ← layRounds (layOut a) greedy next
      layTimes (layOut a) least last

/-- The automaton of a pattern. -/
def ofNode (n : Node) : Automaton :=
  let (start, states) := (do layOut n (← add .accept) : Layout Nat).run #[]
  ⟨states, start⟩

section Search

variable (a : Automaton)

/-- A way that waits for a character of a set, and the state it goes on with. -/
structure Waiting where
  set : CharSet
  next : Nat
  path : Path

/-- Follows ways through states in order, up to states that wait for a character. The first way that is
accepted ends it, as no other one is preferred to it. -/
def explore : Nat → HashSet Nat → List Waiting → List (Nat × Path) → List Waiting × Option Path
  | 0, _, found, _ => (found.reverse, none)
  | _ + 1, _, found, [] => (found.reverse, none)
  | fuel + 1, entered, found, (i, p) :: rest =>
    if entered.contains i then explore fuel entered found rest
    else
      let entered := entered.insert i
      match a.states[i]? with
      | none => explore fuel entered found rest
      | some .accept => (found.reverse, some p)
      | some (.pass s next) => explore fuel entered (⟨s, next, p⟩ :: found) rest
      | some (.look l next) =>
        match p.look? l with
        | some p => explore fuel entered found ((next, p) :: rest)
        | none => explore fuel entered found rest
      | some (.openGroup next) => explore fuel entered found ((next, p.openGroup) :: rest)
      | some (.closeGroup g next) => explore fuel entered found ((next, p.closeGroup g) :: rest)
      | some (.fork first second) =>
        explore fuel entered found ((first, p) :: (second, p) :: rest)

/-- Follows ways through the states. Each state is entered once and leads to two others at most, which
bounds the steps. -/
def exploreAll (ready : List (Nat × Path)) : List Waiting × Option Path :=
  explore a (ready.length + 2 * a.states.size + 1) {} [] ready

/-- The ways that pass a character. -/
def pass (c : Char) (rest : List Char) (waiting : List Waiting) : List (Nat × Path) :=
  waiting.filterMap fun w =>
    if w.set.mem c then some (w.next, w.path.pass c rest) else none

/-- Goes on at a place with the ways that came there and the match found so far. Until there is one, a
match may begin here, too. -/
def findFrom (best : Option Path) (ready : List (Nat × Path)) (index : Nat) (before : Option Char)
    (cs : List Char) : Option Path :=
  let ready :=
    if best.isNone then ready ++ [(a.start, { index, before, rest := cs })] else ready
  let (waiting, found) := a.exploreAll ready
  let best := found.or best
  match cs with
  | [] => best
  | c :: rest => findFrom best (pass c rest waiting) (index + 1) (some c) rest

/-- The way of the first match in a text. -/
def find? (cs : List Char) : Option Path := a.findFrom none [] 0 none cs

end Search

end Automaton

end AerWatch.Regex
