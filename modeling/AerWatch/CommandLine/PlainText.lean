/-!
# Plain text

A report may quote names that hold line breaks and controls of terminals. `PlainText.indent` sets the
lines of a report off from other reports, and `PlainText.withoutControls` keeps what can be read: the
sequences that would move the cursor or change colours are dropped, with their parameters.
-/

namespace AerWatch.CommandLine.PlainText

/-- Writes four spaces in front of each line but the first. -/
def indent (cs : List Char) : List Char :=
  cs.flatMap fun c => if c = '\n' then '\n' :: List.replicate 4 ' ' else [c]

/-- Where a terminal stands in a text. -/
inductive State where
  | plain
  | escape
  /-- After an escape and characters that belong to it. -/
  | escapeMore
  /-- In a control sequence, which a letter ends. -/
  | sequence
  /-- In front of a text for the device. -/
  | device
  | deviceParameters
  | deviceMore
  /-- In a command for the system, which a bell ends. -/
  | command
  /-- In a text that is not shown. -/
  | hidden
deriving DecidableEq

namespace State

/-- Whether a character lies between two others. -/
def within (first last c : Char) : Bool := first ≤ c && c ≤ last

/-- Whether an encoded character has the byte that ends a text. -/
def hasTerminator (c : Char) : Bool := (String.utf8EncodeChar c).contains 0x9c

/-- Where the terminal stands after a character within a sequence. -/
def next : State → Char → State
  | plain, _ => plain
  | escape, c =>
    if within ' ' '/' c then escapeMore
    else if c = '[' then sequence
    else if c = ']' then command
    else if c = 'P' then device
    else if c = 'X' ∨ c = '^' ∨ c = '_' then hidden
    else if within '0' '~' c then plain
    else escape
  | escapeMore, c => if within '0' '~' c then plain else escapeMore
  | sequence, c => if within '@' '~' c then plain else sequence
  | device, c =>
    if within ' ' '/' c then deviceMore
    else if within '0' '?' c then deviceParameters
    else if within '@' '~' c then hidden
    else device
  | deviceParameters, c =>
    if within ' ' '/' c then deviceMore
    else if within '<' '~' c then hidden
    else deviceParameters
  | deviceMore, c => if within '0' '~' c then hidden else deviceMore
  | command, c => if c = '\x07' then plain else command
  | hidden, c => if hasTerminator c then plain else hidden

/-- Where the terminal stands after a character that is not shown. Some controls are obeyed
everywhere. -/
def after (s : State) (c : Char) : State :=
  if c = '\x1b' then escape
  else if c = '\x18' ∨ c = '\x1a' then plain
  else s.next c

/-- Whether a character is white space that is no space. -/
def isBreak (c : Char) : Bool := c == '\t' || c == '\n' || c == '\x0c' || c == '\r'

/-- Whether a character is shown. A line can be broken within a sequence. -/
def shows : State → Char → Bool
  | plain, c => isBreak c || (' ' ≤ c && c != '\x7f')
  | escape, c | escapeMore, c | sequence, c => isBreak c
  | device, _ | deviceParameters, _ | deviceMore, _ | command, _ | hidden, _ => false

end State

/-- The characters that are shown. Where a character was shown (`inText`) the next ones are taken as in
plain text, though the terminal still stands in the sequence that a line break cut short. -/
def visible (s : State) (inText : Bool) : List Char → List Char
  | [] => []
  | c :: cs =>
    if (if inText then State.plain else s).shows c then
      c :: visible (if c.toNat < 0x80 then s else .plain) true cs
    else visible (s.after c) false cs

/-- Drops the controls of terminals. -/
def withoutControls (cs : List Char) : List Char := visible .plain false cs

end AerWatch.CommandLine.PlainText
