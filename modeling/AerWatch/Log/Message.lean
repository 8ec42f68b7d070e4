import AerWatch.Log.Pattern

/-!
# Messages and their assembly

A message begins on a line where the first rule captures and ends on a line where the last rule does,
which may be the same line. In between, the latest value captured for a field counts. A message that
lacks a mandatory field is dropped, and so is one that a new message begins in.
-/

namespace AerWatch.Log

/-- The values found for the fields, in the order of the rules. -/
structure Message where
  items : List (String × String) := []
deriving DecidableEq

/-- The value of a field. -/
def Message.get? (m : Message) (name : String) : Option String := m.items.lookup name

/-- The values that a message has so far, one for each rule. -/
abbrev Draft := List (Option String)

section Assembly

variable (rules : List Rule)

/-- The values captured on a line, one for each rule. -/
def captures (line : String) : Draft := rules.map (·.capture line)

/-- A message that has just begun. -/
def blankDraft : Draft := rules.map fun _ => none

/-- Adds the values captured on a line; a value that is not captured stays as it was. -/
def Draft.add (draft caught : Draft) : Draft := draft.zipWith (fun old new => new.or old) caught

/-- Whether the first rule captured. -/
def Draft.begins (caught : Draft) : Bool := caught.head?.join.isSome

/-- Whether the last rule captured. -/
def Draft.ends (caught : Draft) : Bool := caught.getLast?.join.isSome

/-- The message made of the values of a draft, unless a mandatory one is missing. -/
def Draft.message? (draft : Draft) : Option Message :=
  let fields := rules.zip draft
  if fields.any fun (r, value) => r.mandatory && value.isNone then none
  else some ⟨fields.filterMap fun (r, value) => value.map fun v => (r.name, v)⟩

/-- Takes in a line. Gives the message that is under way after it, and the one that it completes. -/
def assemble (pending : Option Draft) (line : String) : Option Draft × Option Message :=
  let caught := captures rules line
  let begun := if caught.begins then some (blankDraft rules) else pending
  match begun with
  | none => (none, none)
  | some draft =>
    let draft := draft.add caught
    if caught.ends then (none, draft.message? rules) else (some draft, none)

/-- Takes in lines in order. -/
def assembleAll (pending : Option Draft) : List String → Option Draft × List Message
  | [] => (pending, [])
  | line :: rest =>
    let (pending, message) := assemble rules pending line
    let (pending, messages) := assembleAll pending rest
    (pending, message.toList ++ messages)

@[simp] theorem assembleAll_nil (pending : Option Draft) :
    assembleAll rules pending [] = (pending, []) := rfl

theorem assembleAll_append (pending : Option Draft) (as bs : List String) :
    assembleAll rules pending (as ++ bs) =
      let (mid, first) := assembleAll rules pending as
      let (last, second) := assembleAll rules mid bs
      (last, first ++ second) := by
  induction as generalizing pending with
  | nil => simp
  | cons a as ih => simp [assembleAll, ih, List.append_assoc]

end Assembly

end AerWatch.Log
