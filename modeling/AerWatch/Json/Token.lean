import AerWatch.Json.Number

/-!
# Tokens of a JSON document

`tokens` reads a text into its tokens in the order in which they stand, and puts `malformed` at the
place where the text stops being JSON. What was well formed before that place can still be used, so a
reader of tokens reports the first fault of a document, be it one of the text or of the content.
-/

namespace AerWatch.Json

/-- The parts of a document. The commas and colons between them carry no content. -/
inductive Token where
  | beginObject
  | endObject
  | beginArray
  | endArray
  | key (name : String)
  | string (value : String)
  | number (value : Number)
  | bool (value : Bool)
  | null
  /-- The text stops being JSON here. -/
  | malformed
deriving DecidableEq

/-- White space between tokens. -/
def isGap (c : Char) : Bool := c == ' ' || c == '\n' || c == '\t' || c == '\r'

section Strings

/-- The number written by four hexadecimal digits. -/
def unit? (a b c d : Char) : Option Nat := Numeral.ofDigits? 16 [a, b, c, d]

/-- The character of a two-letter escape. -/
def shortEscape? (c : Char) : Option Char :=
  match c with
  | '"' => some '"'
  | '\\' => some '\\'
  | '/' => some '/'
  | 'b' => some '\x08'
  | 'f' => some '\x0c'
  | 'n' => some '\n'
  | 'r' => some '\r'
  | 't' => some '\t'
  | _ => none

/-- The character of two UTF-16 units. -/
def paired? (high low : Nat) : Option Char :=
  if 0xd800 ≤ high ∧ high < 0xdc00 ∧ 0xdc00 ≤ low ∧ low < 0xe000 then
    some (Char.ofNat (0x10000 + (high - 0xd800) * 0x400 + (low - 0xdc00)))
  else none

/-- The character of a single UTF-16 unit. -/
def single? (n : Nat) : Option Char :=
  if 0xd800 ≤ n ∧ n < 0xe000 then none else some (Char.ofNat n)

/-- Reads the rest of a string, after its opening quote and the characters `acc`, latest first. -/
def readString? : List Char → List Char → Option (String × List Char)
  | [], _ => none
  | '"' :: rest, acc => some (String.ofList acc.reverse, rest)
  | '\\' :: 'u' :: a :: b :: c :: d :: tail, acc =>
    match unit? a b c d with
    | none => none
    | some m =>
      match single? m with
      | some x => readString? tail (x :: acc)
      | none =>
        match tail with
        | '\\' :: 'u' :: e :: f :: g :: h :: rest =>
          match (unit? e f g h).bind (paired? m) with
          | some x => readString? rest (x :: acc)
          | none => none
        | _ => none
  | '\\' :: c :: rest, acc =>
    match shortEscape? c with
    | some x => readString? rest (x :: acc)
    | none => none
  | c :: rest, acc => if c.toNat < 0x20 ∨ c = '\\' then none else readString? rest (c :: acc)

end Strings

/-- What may come next. -/
inductive Expect where
  | value
  /-- The first element of an array, or its end. -/
  | first
  /-- The first key of an object, or its end. -/
  | firstKey
  | key
  | colon
  /-- A comma or the end of what is open, or of the text. -/
  | next
deriving DecidableEq

/-- What is open around the place reached. -/
inductive Enclosure where
  | array
  | object
deriving DecidableEq

/-- Where the reading of tokens stands. -/
structure Place where
  expect : Expect
  enclosing : List Enclosure

/-- A token, if one was completed, with the new place and the rest of the text. -/
abbrev Advance := Option Token × Place × List Char

section Values

variable (enclosing : List Enclosure)

/-- Reads a word in full. -/
def word? (word : List Char) (token : Token) (cs : List Char) : Option Advance :=
  if word.isPrefixOf cs then some (some token, ⟨.next, enclosing⟩, cs.drop word.length) else none

/-- Reads the start of a value. -/
def readValue? (cs : List Char) : Option Advance :=
  match cs with
  | '{' :: rest => some (some .beginObject, ⟨.firstKey, .object :: enclosing⟩, rest)
  | '[' :: rest => some (some .beginArray, ⟨.first, .array :: enclosing⟩, rest)
  | '"' :: rest => (readString? rest []).map fun (s, rest) =>
      (some (.string s), ⟨.next, enclosing⟩, rest)
  | 'n' :: _ => word? enclosing ['n', 'u', 'l', 'l'] .null cs
  | 't' :: _ => word? enclosing ['t', 'r', 'u', 'e'] (.bool true) cs
  | 'f' :: _ => word? enclosing ['f', 'a', 'l', 's', 'e'] (.bool false) cs
  | _ => (Number.read? cs).map fun (n, rest) => (some (.number n), ⟨.next, enclosing⟩, rest)

/-- Reads a key. -/
def readKey? (cs : List Char) : Option Advance :=
  match cs with
  | '"' :: rest => (readString? rest []).map fun (s, rest) =>
      (some (.key s), ⟨.colon, enclosing⟩, rest)
  | _ => none

end Values

/-- Reads on from a place, at a character that is not white space. -/
def advance? (place : Place) (cs : List Char) : Option Advance :=
  match place.expect, place.enclosing, cs with
  | .value, enclosing, _ => readValue? enclosing cs
  | .first, .array :: enclosing, ']' :: rest => some (some .endArray, ⟨.next, enclosing⟩, rest)
  | .first, enclosing, _ => readValue? enclosing cs
  | .firstKey, .object :: enclosing, '}' :: rest => some (some .endObject, ⟨.next, enclosing⟩, rest)
  | .firstKey, enclosing, _ => readKey? enclosing cs
  | .key, enclosing, _ => readKey? enclosing cs
  | .colon, enclosing, ':' :: rest => some (none, ⟨.value, enclosing⟩, rest)
  | .next, .array :: enclosing, ']' :: rest => some (some .endArray, ⟨.next, enclosing⟩, rest)
  | .next, .object :: enclosing, '}' :: rest => some (some .endObject, ⟨.next, enclosing⟩, rest)
  | .next, .array :: enclosing, ',' :: rest => some (none, ⟨.value, .array :: enclosing⟩, rest)
  | .next, .object :: enclosing, ',' :: rest => some (none, ⟨.key, .object :: enclosing⟩, rest)
  | _, _, _ => none

/-- The tokens from a place on. Every step takes a character, so `fuel` beyond the length of the text
is never used up. -/
def tokensFrom : Nat → Place → List Char → List Token
  | 0, _, _ => [.malformed]
  | fuel + 1, place, cs =>
    match cs.dropWhile isGap with
    | [] => if place.expect = .next ∧ place.enclosing = [] then [] else [.malformed]
    | c :: rest =>
      match advance? place (c :: rest) with
      | none => [.malformed]
      | some (none, place, rest) => tokensFrom fuel place rest
      | some (some token, place, rest) => token :: tokensFrom fuel place rest

/-- The tokens of a text that is to hold one value. -/
def tokens (cs : List Char) : List Token := tokensFrom (cs.length + 1) ⟨.value, []⟩ cs

end AerWatch.Json
