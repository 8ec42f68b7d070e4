import AerWatch.Json.Token

/-!
# The grammar of JSON

`Written (.value v) text` says that a text is a written form of a value. It leaves open all that
JSON leaves open: blanks around every part, the letter case of hexadecimal digits, and for every
character of a string whether it stands as it is or as an escape.
-/

namespace AerWatch.Json

/-- A JSON value. The number of a numeral that lies beyond all doubles is `none`. -/
inductive Value where
  | null
  | bool (value : Bool)
  | number (value : Option Number)
  | string (value : String)
  | array (elements : List Value)
  | object (members : List (String × Value))

/-- The value of a string that may be absent. -/
def Value.nullable : Option String → Value
  | none => null
  | some s => string s

section Tokens

mutual

/-- The tokens of a value, up to a numeral that lies beyond all doubles. -/
def Value.tokens : Value → List Token
  | .null => [.null]
  | .bool b => [.bool b]
  | .number (some n) => [.number n]
  | .number none => [.malformed]
  | .string s => [.string s]
  | .array vs => .beginArray :: (elementTokens vs ++ [.endArray])
  | .object ms => .beginObject :: (memberTokens ms ++ [.endObject])

/-- The tokens of the elements of an array. -/
def elementTokens : List Value → List Token
  | [] => []
  | v :: vs => v.tokens ++ elementTokens vs

/-- The tokens of the members of an object. -/
def memberTokens : List (String × Value) → List Token
  | [] => []
  | (name, v) :: ms => .key name :: (v.tokens ++ memberTokens ms)

end

end Tokens

section Blanks

/-- White space. -/
def IsBlank (cs : List Char) : Prop := ∀ c ∈ cs, c = ' ' ∨ c = '\n' ∨ c = '\t' ∨ c = '\r'

instance (cs : List Char) : Decidable (IsBlank cs) :=
  List.decidableBAll (fun c => c = ' ' ∨ c = '\n' ∨ c = '\t' ∨ c = '\r') cs

theorem isBlank_nil : IsBlank [] := fun _ h => absurd h List.not_mem_nil

end Blanks

section Strings

/-- The letters of the short escapes, each with the character that it stands for. -/
def shortEscapes : List (Char × Char) :=
  [('"', '"'), ('\\', '\\'), ('/', '/'), ('b', '\x08'), ('f', '\x0c'), ('n', '\n'), ('r', '\r'),
   ('t', '\t')]

/-- A UTF-16 unit in four hexadecimal digits, with letters of either case. -/
def IsUnit (unit : Nat) (digits : List Char) : Prop :=
  unit < 0x10000 ∧ digits.map Char.toLower = Numeral.hex 4 unit

/-- A way to write a character between the quotes of a string. -/
inductive Spelling (c : Char) : List Char → Prop
  | plain (hcontrol : 0x20 ≤ c.toNat) (hquote : c ≠ '"') (hslash : c ≠ '\\') : Spelling c [c]
  | short (letter : Char) (h : (letter, c) ∈ shortEscapes) : Spelling c ['\\', letter]
  | unit (digits : List Char) (h : IsUnit c.toNat digits) : Spelling c ('\\' :: 'u' :: digits)
  | pair (high low : List Char) (h : 0x10000 ≤ c.toNat)
      (hhigh : IsUnit (0xd800 + (c.toNat - 0x10000) / 0x400) high)
      (hlow : IsUnit (0xdc00 + (c.toNat - 0x10000) % 0x400) low) :
      Spelling c ('\\' :: 'u' :: high ++ '\\' :: 'u' :: low)

/-- A way to write characters between the quotes of a string. -/
inductive Spelled : List Char → List Char → Prop
  | nil : Spelled [] []
  | cons {c : Char} {cs form text : List Char} (hc : Spelling c form) (hcs : Spelled cs text) :
      Spelled (c :: cs) (form ++ text)

end Strings

section Numbers

/-- One or more digits. -/
def IsDigits (cs : List Char) : Prop := cs ≠ [] ∧ ∀ c ∈ cs, c.isDigit

/-- The part of a numeral before the point: there is no zero in front of other digits. -/
inductive IsWhole : List Char → Prop
  | zero : IsWhole ['0']
  | digits {c : Char} {cs : List Char} (hzero : c ≠ '0') (h : ∀ d ∈ c :: cs, d.isDigit) :
      IsWhole (c :: cs)

/-- The part of a numeral from the point on, if it has one. -/
inductive IsFraction : List Char → Prop
  | none : IsFraction []
  | some {ds : List Char} (h : IsDigits ds) : IsFraction ('.' :: ds)

/-- The exponent of a numeral, if it has one. -/
inductive IsExponent : List Char → Prop
  | none : IsExponent []
  | some {mark : Char} {sign ds : List Char} (hmark : mark = 'e' ∨ mark = 'E')
      (hsign : sign = [] ∨ sign = ['+'] ∨ sign = ['-']) (h : IsDigits ds) :
      IsExponent (mark :: (sign ++ ds))

/-- A numeral. -/
inductive IsNumeral : List Char → Prop
  | mk {sign whole fraction exponent : List Char} (hsign : sign = [] ∨ sign = ['-'])
      (hwhole : IsWhole whole) (hfraction : IsFraction fraction) (hexponent : IsExponent exponent) :
      IsNumeral (sign ++ (whole ++ (fraction ++ exponent)))

/-- The numerals of numbers. Digits that fit 64 bits are the integer that they write; the number of any
other numeral is what the reader makes of it. -/
inductive IsNumeralOf : Option Number → List Char → Prop
  | integer (n : Nat) (h : n < UInt64.size) :
      IsNumeralOf (some (.integer n)) (Nat.toDigits 10 n)
  | other {cs : List Char} (h : IsNumeral cs) (hother : ∀ n < UInt64.size, cs ≠ Nat.toDigits 10 n) :
      IsNumeralOf ((Number.read? cs).map Prod.fst) cs

end Numbers

/-- What is written: a value, the elements of an array that has some, or the members of an object that
has some. -/
inductive Part where
  | value (v : Value)
  | elements (vs : List Value)
  | members (ms : List (String × Value))

/-- A text is a written form of what is given. -/
inductive Written : Part → List Char → Prop
  | blank {v : Value} {before text after : List Char} (hbefore : IsBlank before)
      (h : Written (.value v) text) (hafter : IsBlank after) :
      Written (.value v) (before ++ (text ++ after))
  | null : Written (.value .null) ['n', 'u', 'l', 'l']
  | true : Written (.value (.bool .true)) ['t', 'r', 'u', 'e']
  | false : Written (.value (.bool .false)) ['f', 'a', 'l', 's', 'e']
  | number {n : Option Number} {text : List Char} (h : IsNumeralOf n text) :
      Written (.value (.number n)) text
  | string {s : String} {text : List Char} (h : Spelled s.toList text) :
      Written (.value (.string s)) ('"' :: (text ++ ['"']))
  | emptyArray {gap : List Char} (h : IsBlank gap) :
      Written (.value (.array [])) ('[' :: (gap ++ [']']))
  | array {vs : List Value} {text : List Char} (h : Written (.elements vs) text) :
      Written (.value (.array vs)) ('[' :: (text ++ [']']))
  | emptyObject {gap : List Char} (h : IsBlank gap) :
      Written (.value (.object [])) ('{' :: (gap ++ ['}']))
  | object {ms : List (String × Value)} {text : List Char} (h : Written (.members ms) text) :
      Written (.value (.object ms)) ('{' :: (text ++ ['}']))
  | element {v : Value} {text : List Char} (h : Written (.value v) text) :
      Written (.elements [v]) text
  | elements {v : Value} {vs : List Value} {text more : List Char} (h : Written (.value v) text)
      (hmore : Written (.elements vs) more) : Written (.elements (v :: vs)) (text ++ ',' :: more)
  | member {name : String} {v : Value} {before key after text : List Char} (hbefore : IsBlank before)
      (hkey : Spelled name.toList key) (hafter : IsBlank after) (h : Written (.value v) text) :
      Written (.members [(name, v)]) (before ++ '"' :: (key ++ '"' :: (after ++ ':' :: text)))
  | members {name : String} {v : Value} {ms : List (String × Value)}
      {before key after text more : List Char} (hbefore : IsBlank before)
      (hkey : Spelled name.toList key) (hafter : IsBlank after) (h : Written (.value v) text)
      (hmore : Written (.members ms) more) :
      Written (.members ((name, v) :: ms))
        (before ++ '"' :: (key ++ '"' :: (after ++ ':' :: (text ++ ',' :: more))))

end AerWatch.Json
