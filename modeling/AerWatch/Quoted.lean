import AerWatch.Numeral
import AerWatch.Unicode.Recent

/-!
# Quoted text in messages

A message that quotes a text of the user shows every character that cannot be seen on its own by an
escape, so that the reader can tell what was written.
-/

namespace AerWatch.Quoted

/-- Whether a character is shown by an escape, as one that cannot be seen on its own. -/
def isHidden (c : Char) : Bool :=
  if c.toNat < 0x7f then c.toNat < 0x20 else Unicode.Recent.hidden.mem c

/-- The escape of a character by its number. -/
def escapeNumber (c : Char) : List Char :=
  ['\\', 'u', '\x7b'] ++ Numeral.hex 1 c.toNat ++ ['\x7d']

/-- A character as it stands between the quotes. -/
def escape (c : Char) : List Char :=
  if c = '"' then ['\\', '"']
  else if c = '\\' then ['\\', '\\']
  else if c = '\n' then ['\\', 'n']
  else if c = '\r' then ['\\', 'r']
  else if c = '\t' then ['\\', 't']
  else if c.toNat = 0 then ['\\', '0']
  else if isHidden c then escapeNumber c
  else [c]

/-- A text between double quotes. -/
def quote (s : String) : String :=
  String.ofList ('"' :: s.toList.flatMap escape ++ ['"'])

end AerWatch.Quoted
