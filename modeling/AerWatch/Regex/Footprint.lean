import AerWatch.Regex.ByteRanges
import AerWatch.Regex.Node
import Std.Data.TreeMap

/-!
# The size of patterns

A pattern is refused if it would take too much memory laid out as an automaton over bytes, for reading
texts forwards or backwards. `Node.fits` counts the states that it would take. Counted repetitions take the
states of a part once for each time, so short patterns can be large.
-/

namespace AerWatch.Regex

open AerWatch.Unicode
open Std (TreeMap)

namespace Footprint

/-- The memory that an automaton may take, in bytes. -/
def limit : Nat := 10 * 1024 * 1024

/-- The states counted so far and the memory that they take. -/
structure Memory where
  states : Nat := 0
  bytes : Nat := 0

/-- Counts states, unless they take too much memory. -/
abbrev Count := StateT Memory Option

/-- Counts a state that leads to a number of others in a list, each of which takes `width` bytes, and tells
its number. -/
def state (others width : Nat) : Count Nat := fun m =>
  let bytes := m.bytes + 32 + others * width
  if limit < bytes then none else some (m.states, ⟨m.states + 1, bytes⟩)

/-- Counts a state that leads to one other. -/
def plain : Count Nat := state 0 0

/-- Counts a state that decides between others. -/
def fork (others : Nat) : Count Nat := state others 4

/-- Counts a state that goes on by the byte it reads. -/
def table (others : Nat) : Count Nat := state others 8

/-- Counts something a number of times. -/
def repeated (c : Count Unit) : Nat → Count Unit
  | 0 => pure ()
  | n + 1 => do
    c
    repeated c n

section Hash

/-- The hash of some numbers, within a number of slots. -/
def slot (slots : Nat) (numbers : List Nat) : Nat :=
  let h := numbers.foldl (fun (h : UInt64) n => (h ^^^ n.toUInt64) * 0x100000001b3)
    0xcbf29ce484222325
  h.toNat % slots

end Hash

section Forwards

/-- Bytes that lead from one state to another. -/
structure Edge where
  first : Nat
  last : Nat
  next : Nat
deriving DecidableEq

/-- The states of encoded characters that were counted, by their slots. Equal states are counted once as
long as no other one takes their slot. -/
abbrev States := TreeMap Nat (List Edge × Nat)

/-- Counts the state with the edges given, unless it is among those counted. -/
def tableOf (edges : List Edge) : StateT States Count Nat := fun known => do
  let i := slot 10000 (edges.flatMap fun e => [e.first, e.last, e.next])
  match known[i]? with
  | some (others, id) => if others = edges then return (id, known)
  | none => pure ()
  let id ← table edges.length
  return (id, known.insert i (edges, id))

/-- A state that is not finished: its edges, the last one first, and the bytes that lead on from it now. -/
structure Pending where
  edges : List Edge := []
  current : Option (Nat × Nat)

/-- Finishes the bytes that lead on from a state. -/
def Pending.close (p : Pending) (next : Nat) : Pending :=
  match p.current with
  | none => p
  | some (first, last) => ⟨⟨first, last, next⟩ :: p.edges, none⟩

/-- Counts states each of which leads to the one after it, and the last one to `stop`. -/
def finish (stop : Nat) : List Pending → StateT States Count Nat
  | [] => pure stop
  | p :: rest => do
    let next ← finish stop rest
    tableOf (p.close next).edges.reverse

/-- Goes over to encoded characters that come after those before. -/
def advance (stop : Nat) : List Pending → ByteRanges → StateT States Count (List Pending)
  | p :: rest, r :: rs => do
    if p.current = some r then return p :: (← advance stop rest rs)
    else
      let next ← finish stop rest
      return { p.close next with current := some r } :: rs.map fun r => ⟨[], some r⟩
  | [], rs => pure (rs.map fun r => ⟨[], some r⟩)
  | ps, [] => pure ps

/-- Counts the states of encoded characters. -/
def forwards (sequences : List ByteRanges) : Count Unit := do
  let stop ← plain
  let counted : StateT States Count Nat := do
    let pending ← sequences.foldlM (advance stop) [⟨[], none⟩]
    finish stop pending
  let _ ← counted.run {}

end Forwards

section Backwards

/-- Counts the states of one sequence of bytes that are not among those counted, from a state on. -/
def backwardsFrom : Nat → ByteRanges → TreeMap Nat ((Nat × Nat × Nat) × Nat) →
    Count (TreeMap Nat ((Nat × Nat × Nat) × Nat))
  | _, [], known => pure known
  | start, (first, last) :: rest, known => do
    let key := (start, first, last)
    let i := slot 1000 [start, first, last]
    match known[i]? with
    | some (other, id) => if other = key then return ← backwardsFrom id rest known
    | none => pure ()
    let id ← plain
    backwardsFrom id rest (known.insert i (key, id))

/-- Counts the states of encoded characters that are read backwards. -/
def backwards (sequences : List ByteRanges) : Count Unit := do
  let _ ← fork sequences.length
  let stop ← plain
  let _ ← sequences.foldlM (fun known bytes => backwardsFrom stop bytes known) {}

end Backwards

section Texts

/-- The keys up to each empty one, and those after the last one. -/
def chunks (keys : List (List UInt8)) : List (List (List UInt8)) := keys.splitOnP (·.isEmpty)

/-- The first bytes of keys. -/
def firstBytes (keys : List (List UInt8)) : List UInt8 := (keys.filterMap (·.head?)).eraseDups

/-- The rests of the keys that begin with a byte. -/
def restsAfter (b : UInt8) (keys : List (List UInt8)) : List (List UInt8) :=
  keys.filterMap fun key => if key.head? = some b then key.tail? else none

/-- Only the first of the empty keys in front. -/
def withOneStop (keys : List (List UInt8)) : List (List UInt8) :=
  if keys.head? = some [] then [] :: keys.dropWhile (·.isEmpty) else keys

/-- Counts the states of a tree of texts. In each branching a fork leads to the end for each text that
ends there, and to a state for the texts before, between and after these. Where no text goes on there is
no state. -/
def tree : Nat → List (List UInt8) → Count Unit
  | 0, _ => pure ()
  | depth + 1, keys => do
    if keys.all (·.isEmpty) then return ()
    let parts := chunks (withOneStop keys)
    for part in parts do
      let bytes := firstBytes part
      for b in bytes do
        tree depth (restsAfter b part)
      match bytes.length with
      | 0 => pure ()
      | 1 => let _ ← plain
      | n => let _ ← table n
    let _ ← fork ((parts.filter fun part => !part.isEmpty).length + parts.length - 1)

/-- Counts the states of texts of which one is chosen. -/
def texts (keys : List (List UInt8)) : Count Unit := do
  let _ ← plain
  tree ((keys.map List.length).foldl max 0 + 1) keys

end Texts

end Footprint

open Footprint

namespace Node

section Anchors

/-- Whether a match has to begin at a place of a kind. -/
def opensWith (l : Look) : Node → Bool
  | look k => k == l
  | seq a b => a.opensWith l || (a.isPlace && b.opensWith l)
  | alt a b => a.opensWith l && b.opensWith l
  | group _ a => a.opensWith l
  | repetition a least _ _ => least != 0 && a.opensWith l
  | empty | text _ | set _ => false

/-- Whether a match has to end at a place of a kind. -/
def closesWith (l : Look) : Node → Bool
  | look k => k == l
  | seq a b => b.closesWith l || (b.isPlace && a.closesWith l)
  | alt a b => a.closesWith l && b.closesWith l
  | group _ a => a.closesWith l
  | repetition a least _ _ => least != 0 && a.closesWith l
  | empty | text _ | set _ => false

end Anchors

/-- The bytes of a text. -/
def text? : Node → Option (List UInt8)
  | text cs => some (cs.flatMap String.utf8EncodeChar)
  | _ => none

/-- Counts the states of a character of a set. -/
def countSet (back : Bool) (s : CharSet) : Count Unit :=
  if s.ranges.all fun r => decide (r.2 < 0x80) then do
    let _ ← plain
    let _ ← table s.ranges.length
  else
    let sequences := ByteRanges.ofSet s
    if back then backwards sequences else forwards sequences

/-- Counts the states of a pattern. Within alternatives, `chosen` tells that the states around them are
counted already. -/
def count (back : Bool) : (chosen : Bool) → Node → Count Unit
  | _, empty => discard plain
  | _, text cs => repeated (discard plain) (cs.flatMap String.utf8EncodeChar).length
  | _, set s => countSet back s
  | _, look _ => discard plain
  | _, seq a b => do
    if back then
      count back false b
      count back false a
    else
      count back false a
      count back false b
  | chosen, alt a b => do
    if chosen then
      count back true a
      count back true b
    else
      let bs := (alt a b).branches
      match bs.mapM text? with
      | some keys => texts (if back then keys.map List.reverse else keys)
      | none =>
        count back true a
        count back true b
        let _ ← fork bs.length
        discard plain
  | _, group _ a => do
    if back then count back false a
    else
      let _ ← plain
      count back false a
      discard plain
  | _, repetition a least most _ => do
    match most with
    | none =>
      if least = 0 then
        if a.takesSome then
          let _ ← fork 2
          count back false a
        else
          count back false a
          let _ ← fork 2
          let _ ← fork 2
          discard plain
      else
        repeated (count back false a) least
        discard (fork 2)
    | some most =>
      let optional : Count Unit := do
        let _ ← fork 2
        count back false a
      if least = most then repeated (count back false a) least
      else if least = 0 ∧ most = 1 then
        optional
        discard plain
      else
        if least = 0 then discard plain
        repeated (count back false a) least
        let _ ← plain
        repeated optional (most - least)

/-- Counts the states of a pattern that is looked for anywhere, or only at the end of the text where the
search begins if `anchored`. -/
def countAll (back anchored : Bool) (n : Node) : Count Unit := do
  if anchored then discard plain
  else
    let _ ← fork 2
    let _ ← plain
    discard (table 1)
  count back false n
  discard plain

/-- Whether the automata of a pattern are small enough. -/
def fits (n : Node) : Bool :=
  ((n.countAll false (n.opensWith .textStart)).run {}).isSome &&
    ((n.countAll true (n.closesWith .textEnd)).run {}).isSome

end Node

end AerWatch.Regex
