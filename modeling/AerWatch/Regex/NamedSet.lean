import AerWatch.Unicode.Age
import AerWatch.Unicode.Blank
import AerWatch.Unicode.Folding
import AerWatch.Unicode.Segmentation

/-!
# Sets with a name

The sets that a pattern may name: classes of one letter, the classes of ASCII, and properties of the
standard, whose names are compared in a loose form.
-/

namespace AerWatch.Regex

open AerWatch.Unicode

namespace NamedSet

section Letters

/-- Decimal digits of all scripts. -/
def digit : CharSet := Category.charSet [.nd]

/-- White space of all scripts. -/
def blank : CharSet := Property.whiteSpace

/-- The characters that can be part of a word. -/
def word : CharSet :=
  .unions [Property.alphabetic, Property.joinControl, Category.charSet [.mn, .mc, .me, .nd, .pc]]

def asciiDigit : CharSet := .range '0' '9'

def asciiBlank : CharSet := .ofList ['\t', '\n', '\x0b', '\x0c', '\r', ' ']

def asciiLetter : CharSet := ⟨[(0x41, 0x5a), (0x61, 0x7a)]⟩

def asciiWord : CharSet := .unions [asciiDigit, asciiLetter, .single '_']

/-- Any character that does not end a line. -/
def inLine : CharSet := (CharSet.single '\n').negate

/-- Any character that ends a line neither by itself nor in a pair. -/
def inLineCrlf : CharSet := (CharSet.ofList ['\n', '\r']).negate

/-- A set with the characters that differ from a member in the case of an ASCII letter. -/
def foldAscii (s : CharSet) : CharSet :=
  let letters := (s.inter asciiLetter).ranges.flatMap fun (first, last) =>
    (List.range (last + 1 - first)).map (first + ·)
  s.insertAll (letters.map fun n => if n < 0x61 then n + 0x20 else n - 0x20)

end Letters

/-- The ASCII classes that a bracketed class may name. -/
def posix? (name : String) : Option CharSet :=
  match name with
  | "alnum" => some (asciiDigit.union asciiLetter)
  | "alpha" => some asciiLetter
  | "ascii" => some (.range '\x00' '\x7f')
  | "blank" => some (.ofList ['\t', ' '])
  | "cntrl" => some ((CharSet.range '\x00' '\x1f').union (.single '\x7f'))
  | "digit" => some asciiDigit
  | "graph" => some (.range '!' '~')
  | "lower" => some (.range 'a' 'z')
  | "print" => some (.range ' ' '~')
  | "punct" => some ((CharSet.range '!' '~').diff (asciiDigit.union asciiLetter))
  | "space" => some asciiBlank
  | "upper" => some (.range 'A' 'Z')
  | "word" => some asciiWord
  | "xdigit" => some (.unions [asciiDigit, .range 'A' 'F', .range 'a' 'f'])
  | _ => none

section Properties

/-- The loose form of a name: case, blanks, hyphens, underscores and a leading `is` do not matter. -/
def looseName (name : List Char) : String :=
  let lower := name.map Char.toLower
  let (stripped, rest) := match lower with
    | 'i' :: 's' :: rest => (true, rest)
    | _ => (false, lower)
  let kept := rest.filter fun c => c.toNat < 0x80 && c != ' ' && c != '_' && c != '-'
  if stripped && kept == ['c'] then "isc" else String.ofList kept

/-- The set that has a name among sets with their names. -/
def lookup (sets : List (CharSet × List String)) (name : String) : Option CharSet :=
  (sets.find? (·.2.contains name)).map (·.1)

/-- The set of a general category, by a loose name. -/
def category? (name : String) : Option CharSet :=
  match name with
  | "any" => some .all
  | "assigned" => some (Category.charSet [.cn]).negate
  | "ascii" => some (.range '\x00' '\x7f')
  | _ => (Category.named.find? (·.1.contains name)).map fun (_, cs) => Category.charSet cs

/-- The code of a script, by a loose name. -/
def scriptCode? (name : String) : Option String :=
  (Script.named.find? (·.2.contains name)).map (·.1)

/-- The set of the characters that a version of the standard knows, by its loose name: the number
of the version, or a letter and the number without its point. -/
def age? (name : String) : Option CharSet :=
  let version := Age.added.find? fun (v, _) =>
    name == v || name.toList == 'v' :: v.toList.filter (· != '.')
  version.bind fun (v, _) => Age.charSet? v

/-- The set that a single name stands for. Three short names are those of categories, although
properties have them, too. -/
def named? (name : List Char) : Option CharSet :=
  let name := looseName name
  let property :=
    if ["cf", "sc", "lc"].contains name then none else lookup Property.named name
  property.or ((category? name).or ((scriptCode? name).map Script.charSet))

/-- The set that a property and a value stand for. -/
def valued? (property value : List Char) : Option CharSet :=
  let value := looseName value
  match looseName property with
  | "gc" | "generalcategory" => category? value
  | "sc" | "script" => (scriptCode? value).map Script.charSet
  | "scx" | "scriptextensions" => (scriptCode? value).map Script.usedIn
  | "age" => age? value
  | "gcb" | "graphemeclusterbreak" => lookup Segmentation.Grapheme.named value
  | "wb" | "wordbreak" => lookup Segmentation.Word.named value
  | "sb" | "sentencebreak" => lookup Segmentation.Sentence.named value
  | _ => none

end Properties

end NamedSet

end AerWatch.Regex
