import AerWatch.Numeral

/-!
# Written JSON

Strings and objects in compact form. Quotes, backslashes and control characters are escaped and all
other characters stand as they are, so a written value never holds a line break.
-/

namespace AerWatch.Json

/-- A character as it stands between the quotes of a string. -/
def escape (c : Char) : List Char :=
  if c = '"' then ['\\', '"']
  else if c = '\\' then ['\\', '\\']
  else if c = '\x08' then ['\\', 'b']
  else if c = '\t' then ['\\', 't']
  else if c = '\n' then ['\\', 'n']
  else if c = '\x0c' then ['\\', 'f']
  else if c = '\r' then ['\\', 'r']
  else if c.toNat < 0x20 then '\\' :: 'u' :: Numeral.hex 4 c.toNat
  else [c]

/-- A string value. -/
def stringText (s : String) : List Char := '"' :: s.toList.flatMap escape ++ ['"']

def nullText : List Char := ['n', 'u', 'l', 'l']

/-- A member of an object, given its written value. -/
def memberText (key : String) (value : List Char) : List Char := stringText key ++ ':' :: value

/-- An object, given its written members. -/
def objectText (members : List (List Char)) : List Char :=
  '{' :: [','].intercalate members ++ ['}']

end AerWatch.Json
