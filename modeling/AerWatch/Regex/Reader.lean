import AerWatch.Numeral
import AerWatch.Regex.Fault
import AerWatch.Regex.Footprint
import AerWatch.Unicode.Recent

/-!
# Written patterns

`readPattern` reads a pattern, or tells why it is refused. Flags are resolved on the way: a flag holds
from where it is set to the end of the group around it. A pattern may nest at most 250 deep, and what
can match bytes that are no text is refused.
-/

namespace AerWatch.Regex

open AerWatch.Unicode

/-- The flags of a pattern. -/
structure Flags where
  caseless : Bool := false
  multiLine : Bool := false
  dotAll : Bool := false
  lazyFirst : Bool := false
  unicode : Bool := true
  crlf : Bool := false
  /-- White space and comments in the pattern are skipped. -/
  spaced : Bool := false

/-- Sets a flag by its letter. -/
def Flags.set? (f : Flags) (letter : Char) (on : Bool) : Option Flags :=
  match letter with
  | 'i' => some { f with caseless := on }
  | 'm' => some { f with multiLine := on }
  | 's' => some { f with dotAll := on }
  | 'U' => some { f with lazyFirst := on }
  | 'u' => some { f with unicode := on }
  | 'R' => some { f with crlf := on }
  | 'x' => some { f with spaced := on }
  | _ => none

section Gaps

/-- Skips white space and comments, which reach from `#` to the end of the line. -/
def skipComments : Bool → List Char → List Char
  | _, [] => []
  | true, c :: rest => skipComments (c != '\n') rest
  | false, c :: rest =>
    if isBlank c then skipComments false rest
    else if c == '#' then skipComments true rest
    else c :: rest

/-- Skips what the flags let pass between two parts. -/
def Flags.skip (f : Flags) (cs : List Char) : List Char :=
  if f.spaced then skipComments false cs else cs

/-- The characters in front that pass a test, with the gaps after them skipped. -/
def takeSpaced (f : Flags) (p : Char → Bool) : Nat → List Char → List Char × List Char
  | fuel + 1, c :: rest =>
    if p c then
      let (taken, after) := takeSpaced f p fuel (f.skip rest)
      (c :: taken, after)
    else ([], c :: rest)
  | _, cs => ([], cs)

end Gaps

section Numbers

/-- Reads a count of up to 32 bits. -/
def readCount? (f : Flags) (cs : List Char) : Option (Nat × List Char) :=
  let cs := cs.dropWhile isBlank
  let (digits, after) := takeSpaced f Char.isDigit cs.length cs
  let (_, after) := takeSpaced f isBlank after.length after
  ((Numeral.ofDigits? 10 digits).filter (· < UInt32.size)).map fun n => (n, after)

/-- The character with a number. -/
def charOf? (n : Nat) : Option Char :=
  if n < 0xd800 ∨ 0xe000 ≤ n ∧ n < 0x110000 then some (Char.ofNat n) else none

/-- Reads the number of a character from `count` hexadecimal digits. -/
def readHex? (f : Flags) : Nat → List Char → List Char → Option (Char × List Char)
  | 0, digits, cs => ((Numeral.ofDigits? 16 digits.reverse).bind charOf?).map fun c => (c, cs)
  | count + 1, digits, c :: rest => readHex? f count (c :: digits) (f.skip rest)
  | _ + 1, _, [] => none

/-- Reads the number of a character between braces, after the opening one. -/
def readBraced? (f : Flags) (cs : List Char) : Option (Char × List Char) :=
  let (digits, after) := takeSpaced f (· != '}') cs.length (f.skip cs)
  match after with
  | '}' :: rest =>
    ((Numeral.ofDigits? 16 digits).bind charOf?).map fun c => (c, f.skip rest)
  | _ => none

/-- Reads how often a part is repeated, after the opening brace. -/
def readTimes? (f : Flags) (cs : List Char) : Option (Nat × Option Nat × List Char) := do
  let (least, cs) ← readCount? f (f.skip cs)
  match cs with
  | '}' :: rest => return (least, some least, rest)
  | ',' :: rest =>
    match f.skip rest with
    | '}' :: rest => return (least, none, rest)
    | cs =>
      let (most, cs) ← readCount? f cs
      match cs with
      | '}' :: rest => if least ≤ most then some (least, some most, rest) else none
      | _ => none
  | _ => none

end Numbers

/-- A part of a pattern or of a bracketed class. -/
inductive Atom where
  /-- A character; `isByte` if it was written as two hexadecimal digits. -/
  | char (c : Char) (isByte : Bool)
  | set (s : CharSet)
  | look (l : Look)

section Escapes

variable (f : Flags)

/-- A set, negated if asked for. Without the Unicode flag a negated set would match bytes. -/
def negated? (negate : Bool) (s : CharSet) : Option CharSet :=
  if !negate then some s else if f.unicode then some s.negate else none

/-- A set with the characters that differ from its members in case, if the flags ask for them. -/
def folded (s : CharSet) : CharSet :=
  if !f.caseless then s else if f.unicode then s.fold else NamedSet.foldAscii s

/-- The first place where a word stands, as what is before it and what is after it. -/
def splitAt? (word : List Char) : List Char → Option (List Char × List Char)
  | [] => none
  | c :: cs =>
    if word.isPrefixOf (c :: cs) then some ([], (c :: cs).drop word.length)
    else (splitAt? word cs).map fun (before, after) => (c :: before, after)

/-- The set that a query stands for: a name, or a property with a value after an equals sign, a colon
or a mark of inequality. The last of these takes all other characters, as the flag tells. -/
def query (text : List Char) : Option CharSet × Bool :=
  match splitAt? ['!', '='] text with
  | some (property, value) => (NamedSet.valued? property value, true)
  | none =>
    match (splitAt? [':'] text).or (splitAt? ['='] text) with
    | some (property, value) => (NamedSet.valued? property value, false)
    | none => (NamedSet.named? text, false)

/-- Reads the query for a set after `\p`, or after `\P` if `negate`. -/
def readNamedSet? (negate : Bool) (cs : List Char) : Option (Atom × List Char) := do
  let ((found, differs), rest) ← match f.skip cs with
    | [] => none
    | '{' :: rest =>
      let (text, after) := takeSpaced f (· != '}') rest.length (f.skip rest)
      match after with
      | '}' :: rest => some (query text, rest)
      | _ => none
    | c :: rest => if c = '\\' then none else some ((NamedSet.named? [c], false), f.skip rest)
  guard f.unicode
  let s ← negated? f (negate != differs) (folded f (← found))
  return (.set s, rest)

/-- Reads the kind of word edge after `\b`, if one is named there. Braces around something else are
left alone. -/
def readEdge? (cs : List Char) : Option (WordEdge × List Char) :=
  match cs with
  | '{' :: rest =>
    let isNameChar := fun c : Char => c.isAlpha || c == '-'
    match f.skip rest with
    | [] => none
    | c :: after =>
      if !isNameChar c then some (.boundary, cs)
      else
        let (name, after) := takeSpaced f isNameChar (after.length + 1) (c :: after)
        match String.ofList name, after with
        | "start", '}' :: rest => some (.start, rest)
        | "end", '}' :: rest => some (.stop, rest)
        | "start-half", '}' :: rest => some (.startHalf, rest)
        | "end-half", '}' :: rest => some (.stopHalf, rest)
        | _, _ => none
  | _ => some (.boundary, cs)

/-- The characters that have a meaning in patterns; a backslash takes it from them. -/
def isMeta (c : Char) : Bool := "\\.+*?()|[]\x7b\x7d^$#&-~".toList.contains c

/-- The characters that stand for themselves after a backslash. -/
def isEscapable (c : Char) : Bool :=
  isMeta c || (c.toNat < 0x80 && !c.isAlphanum && c != '<' && c != '>')

/-- Reads a number of two, four or eight hexadecimal digits, or one between braces. -/
def readCharNumber? (count : Nat) (cs : List Char) : Option (Atom × List Char) :=
  match f.skip cs with
  | '{' :: rest => (readBraced? f rest).map fun (c, rest) => (.char c false, rest)
  | cs => (readHex? f count [] cs).map fun (c, rest) => (.char c (count == 2), rest)

/-- The set of a class letter. -/
def readClassLetter? (wide narrow : CharSet) (negate : Bool) (rest : List Char) :
    Option (Atom × List Char) :=
  (negated? f negate (if f.unicode then wide else narrow)).map fun s => (.set s, rest)

/-- Reads what follows a backslash. -/
def readEscape? (cs : List Char) : Option (Atom × List Char) :=
  match cs with
  | [] => none
  | c :: rest =>
    match c with
    | 'x' => readCharNumber? f 2 rest
    | 'u' => readCharNumber? f 4 rest
    | 'U' => readCharNumber? f 8 rest
    | 'p' => readNamedSet? f false rest
    | 'P' => readNamedSet? f true rest
    | 'd' => readClassLetter? f NamedSet.digit NamedSet.asciiDigit false rest
    | 'D' => readClassLetter? f NamedSet.digit NamedSet.asciiDigit true rest
    | 's' => readClassLetter? f NamedSet.blank NamedSet.asciiBlank false rest
    | 'S' => readClassLetter? f NamedSet.blank NamedSet.asciiBlank true rest
    | 'w' => readClassLetter? f NamedSet.word NamedSet.asciiWord false rest
    | 'W' => readClassLetter? f NamedSet.word NamedSet.asciiWord true rest
    | 'a' => some (.char '\x07' false, rest)
    | 'f' => some (.char '\x0c' false, rest)
    | 't' => some (.char '\t' false, rest)
    | 'n' => some (.char '\n' false, rest)
    | 'r' => some (.char '\r' false, rest)
    | 'v' => some (.char '\x0b' false, rest)
    | 'A' => some (.look .textStart, rest)
    | 'z' => some (.look .textEnd, rest)
    | 'b' => (readEdge? f rest).map fun (edge, rest) => (.look (.word edge f.unicode), rest)
    | 'B' => some (.look (.word .noBoundary f.unicode), rest)
    | '<' => some (.look (.word .start f.unicode), rest)
    | '>' => some (.look (.word .stop f.unicode), rest)
    | _ => if isEscapable c then some (.char c false, rest) else none

end Escapes

section Classes

/-- The operations between the parts of a bracketed class. -/
inductive SetOp where
  | inter
  | diff
  | symmDiff

def SetOp.apply : SetOp → CharSet → CharSet → CharSet
  | inter => .inter
  | diff => .diff
  | symmDiff => .symmDiff

/-- A set with how deep it nests. -/
structure NestedSet where
  set : CharSet
  depth : Nat

/-- A bracketed class that is being read: what stands before the last operation, and the parts since
then with their number. -/
structure Bracket where
  negate : Bool
  before : Option (SetOp × NestedSet)
  parts : NestedSet
  count : Nat

namespace Bracket

variable (f : Flags)

def start (negate : Bool) : Bracket := ⟨negate, none, ⟨.empty, 0⟩, 0⟩

/-- Adds a part. -/
def add (b : Bracket) (s : CharSet) (depth : Nat) : Bracket :=
  { b with parts := ⟨b.parts.set.union s, max b.parts.depth depth⟩, count := b.count + 1 }

/-- Joins the parts read since the last operation with what stands before it. -/
def join (b : Bracket) : NestedSet :=
  let parts := if b.count < 2 then b.parts else { b.parts with depth := b.parts.depth + 1 }
  match b.before with
  | none => parts
  | some (op, left) =>
    ⟨op.apply (folded f left.set) (folded f parts.set), max left.depth parts.depth + 1⟩

/-- Goes on after an operation. -/
def operate (b : Bracket) (op : SetOp) : Bracket :=
  { b with before := some (op, b.join f), parts := ⟨.empty, 0⟩, count := 0 }

/-- Ends the class. -/
def close? (b : Bracket) : Option NestedSet :=
  let joined := b.join f
  (negated? f b.negate (folded f joined.set)).map fun s => ⟨s, joined.depth + 1⟩

end Bracket

variable (f : Flags)

/-- Reads the hyphens in front of a class, which stand for themselves. -/
def readHyphens : Nat → Bracket → List Char → Bracket × List Char
  | fuel + 1, b, '-' :: rest => readHyphens fuel (b.add (.single '-') 0) (f.skip rest)
  | _, b, cs => (b, cs)

/-- Reads the front of a class after the opening bracket. A closing bracket there stands for
itself. -/
def openBracket (cs : List Char) : Bracket × List Char :=
  let (negate, cs) := match f.skip cs with
    | '^' :: rest => (true, f.skip rest)
    | cs => (false, cs)
  let (b, cs) := readHyphens f cs.length (.start negate) cs
  match b.count, cs with
  | 0, ']' :: rest => (b.add (.single ']') 0, f.skip rest)
  | _, cs => (b, cs)

/-- Reads the name of an ASCII class after the opening bracket, as in `[:alpha:]`. -/
def readPosix? (cs : List Char) : Option (Bool × CharSet × List Char) :=
  match cs with
  | ':' :: rest =>
    let (negate, rest) := match rest with
      | '^' :: rest => (true, rest)
      | _ => (false, rest)
    let (name, after) := rest.span (· != ':')
    match after with
    | ':' :: ']' :: rest => (NamedSet.posix? (String.ofList name)).map fun s => (negate, s, rest)
    | _ => none
  | _ => none

/-- A character of a class. Without the Unicode flag it must be ASCII. -/
def classChar? (c : Char) : Option Char := if f.unicode || c.toNat < 0x80 then some c else none

/-- Reads a part of a class: a character or an escape. -/
def readClassAtom? (cs : List Char) : Option (Atom × List Char) :=
  match cs with
  | [] => none
  | '\\' :: rest => readEscape? f rest
  | c :: rest => some (.char c false, rest)

/-- The character of a part that is to be an end of a range. -/
def Atom.rangeEnd? : Atom → Option Char
  | char c _ => classChar? f c
  | set _ | look _ => none

/-- The set of a part of a class. -/
def Atom.classSet? : Atom → Option CharSet
  | char c _ => (classChar? f c).map .single
  | set s => some s
  | look _ => none

/-- The character that a hyphen is taken to stand before: white space is passed and, where a comment
begins, its mark with the white space after it. -/
def Flags.ahead? (cs : List Char) : Option Char :=
  if !f.spaced then cs.head?
  else
    match cs.dropWhile isBlank with
    | '#' :: rest => (rest.dropWhile isBlank).head?
    | cs => cs.head?

/-- Reads a part of a class, or a range between two of them. -/
def readClassPart? (cs : List Char) : Option (CharSet × List Char) := do
  let (a, rest) ← readClassAtom? f cs
  match f.skip rest with
  | [] => none
  | '-' :: after =>
    match f.ahead? after with
    | some ']' | some '-' => return (← a.classSet? f, '-' :: after)
    | _ =>
      let (b, rest) ← readClassAtom? f (f.skip after)
      let first ← a.rangeEnd? f
      let last ← b.rangeEnd? f
      if first ≤ last then some (.range first last, rest) else none
  | rest => return (← a.classSet? f, rest)

/-- Reads a class to its end, inside the brackets `outer`. -/
def readClass? : Nat → List Bracket → Bracket → List Char → Option (NestedSet × List Char)
  | 0, _, _, _ => none
  | fuel + 1, outer, b, cs =>
    match f.skip cs with
    | [] => none
    | '[' :: rest =>
      match readPosix? rest with
      | some (negate, s, rest) => do
        let s ← negated? f negate (folded f s)
        readClass? fuel outer (b.add s 0) rest
      | none =>
        let (inner, rest) := openBracket f rest
        readClass? fuel (b :: outer) inner rest
    | ']' :: rest =>
      match b.close? f with
      | none => none
      | some s =>
        match outer with
        | [] => some (s, rest)
        | b :: outer => readClass? fuel outer (b.add s.set s.depth) rest
    | '&' :: '&' :: rest => readClass? fuel outer (b.operate f .inter) rest
    | '-' :: '-' :: rest => readClass? fuel outer (b.operate f .diff) rest
    | '~' :: '~' :: rest => readClass? fuel outer (b.operate f .symmDiff) rest
    | cs => do
      let (s, rest) ← readClassPart? f cs
      readClass? fuel outer (b.add s 0) rest

end Classes

section Groups

/-- Reads flags up to the colon or parenthesis after them. `seen` holds the letters read so far. -/
def readFlags? (f : Flags) (on : Bool) (seen : List Char) : List Char → Option (Flags × List Char)
  | [] => none
  | c :: rest =>
    if c = ':' ∨ c = ')' then
      if seen.head? = some '-' then none else some (f, c :: rest)
    else if seen.contains c then none
    else if c = '-' then readFlags? f false (c :: seen) rest
    else
      match f.set? c on with
      | none => none
      | some f => readFlags? f on (c :: seen) rest

/-- Whether a character may stand in the name of a group. -/
def isNameChar (isFirst : Bool) (c : Char) : Bool :=
  c == '_' || Recent.alphabetic.mem c ||
    (!isFirst && (c == '.' || c == '[' || c == ']' || Recent.numeric.mem c))

/-- Reads the name of a group and the bracket after it. -/
def readName? (cs : List Char) : Option (String × List Char) :=
  let (name, after) := cs.span (· != '>')
  match name, after with
  | c :: rest, '>' :: after =>
    if isNameChar true c && rest.all (isNameChar false) then some (String.ofList name, after)
    else none
  | _, _ => none

/-- What stands after an opening parenthesis. -/
inductive Opening where
  /-- Flags for the rest of the group around. -/
  | flags (f : Flags)
  | group (f : Flags)
  | capture (name : Option String)

/-- Reads what stands after an opening parenthesis. A look around is refused. -/
def readOpening? (f : Flags) (cs : List Char) : Option (Opening × List Char) :=
  match f.skip cs with
  | '?' :: '=' :: _ | '?' :: '!' :: _ | '?' :: '<' :: '=' :: _ | '?' :: '<' :: '!' :: _ => none
  | '?' :: 'P' :: '<' :: rest | '?' :: '<' :: rest =>
    (readName? rest).map fun (name, rest) => (.capture (some name), rest)
  | '?' :: rest =>
    match readFlags? f true [] rest with
    | some (g, ':' :: after) => some (.group g, after)
    | some (g, ')' :: after) => if rest.head? = some ')' then none else some (.flags g, after)
    | _ => none
  | cs => some (.capture none, cs)

end Groups

section Parts

/-- A part of a pattern with how deep it nests. Flags stand among the parts but cannot be
repeated. -/
structure Part where
  node : Node
  depth : Nat := 0
  repeatable : Bool := true

/-- Parts put together, given the last one first. Two and more make a level above them. -/
def Part.put (together : List Node → Node) (parts : List Part) : Part :=
  let depth := (parts.map depth).foldl max 0
  ⟨together (parts.map node).reverse, if parts.length < 2 then depth else depth + 1, true⟩

/-- Parts in sequence, given the last one first. -/
def sequence (parts : List Part) : Part := Part.put .concat parts

/-- Parts as alternatives, given the last one first. -/
def alternatives (parts : List Part) : Part := Part.put .alternation parts

/-- A group that is being read: its number if it captures, the flags around it, and what was read
before it. -/
structure Open where
  index : Option Nat
  flags : Flags
  finished : List Part
  parts : List Part

/-- A pattern that is being read: the alternatives of the current group that are finished and the parts
of the current one, the last ones first. -/
structure Progress where
  flags : Flags := {}
  groups : Nat := 0
  names : List String := []
  outer : List Open := []
  finished : List Part := []
  parts : List Part := []

namespace Progress

variable (p : Progress)

/-- Adds a part. -/
def add (node : Node) (depth : Nat) : Progress := { p with parts := ⟨node, depth, true⟩ :: p.parts }

/-- Ends an alternative. -/
def divide : Progress := { p with finished := sequence p.parts :: p.finished, parts := [] }

/-- What was read of the current group. -/
def content : Part := alternatives (sequence p.parts :: p.finished)

/-- Goes into a group. -/
def enter (index : Option Nat) (flags : Flags) : Progress :=
  { p with
    flags
    outer := ⟨index, p.flags, p.finished, p.parts⟩ :: p.outer
    finished := []
    parts := [] }

/-- Goes into what an opening parenthesis stands for. -/
def descend? : Opening → Option Progress
  | .flags f => some { p with flags := f, parts := ⟨.empty, 0, false⟩ :: p.parts }
  | .group f => some (p.enter none f)
  | .capture name =>
    if name.any p.names.contains then none
    else
      let index := p.groups + 1
      some ({ p with groups := index, names := name.toList ++ p.names }.enter (some index) p.flags)

/-- Leaves a group. -/
def leave? : Option Progress :=
  match p.outer with
  | [] => none
  | o :: outer =>
    let inner := p.content
    let node := match o.index with
      | none => inner.node
      | some i => .group i inner.node
    some { p with
      flags := o.flags
      outer
      finished := o.finished
      parts := ⟨node, inner.depth + 1, true⟩ :: o.parts }

/-- Repeats the last part, as often as possible unless a question mark follows. -/
def repeat? (least : Nat) (most : Option Nat) (rest : List Char) :
    Option (Progress × List Char) :=
  match p.parts with
  | [] => none
  | q :: parts =>
    if !q.repeatable then none
    else
      let (stingy, rest) := match rest with
        | '?' :: rest => (true, rest)
        | _ => (false, rest)
      let node := q.node.times least most (stingy == p.flags.lazyFirst)
      some ({ p with parts := ⟨node, q.depth + 1, true⟩ :: parts }, rest)

/-- The pattern that matches a character. Without the Unicode flag a byte must be ASCII. -/
def literal? (c : Char) (isByte : Bool) : Option Node :=
  if p.flags.unicode then
    some (if p.flags.caseless then .ofSet (.ofList (Folding.orbit c)) else .text [c])
  else if isByte && 0x80 ≤ c.toNat then none
  else if p.flags.caseless then some (.ofSet (NamedSet.foldAscii (.single c)))
  else some (.text [c])

/-- The pattern of a point. -/
def dot? : Option Node :=
  if !p.flags.unicode then none
  else
    some (.set (if p.flags.dotAll then .all
      else if p.flags.crlf then NamedSet.inLineCrlf else NamedSet.inLine))

/-- The pattern of a part outside of classes. -/
def atom? : Atom → Option Node
  | .char c isByte => p.literal? c isByte
  | .set s => some (.ofSet s)
  | .look l => some (.look l)

/-- Reads on, at a character that is not skipped. -/
def read? (cs : List Char) : Option (Progress × List Char) :=
  match cs with
  | [] => none
  | '(' :: rest => do
    let (opening, rest) ← readOpening? p.flags rest
    return (← p.descend? opening, rest)
  | ')' :: rest => p.leave?.map (·, rest)
  | '|' :: rest => some (p.divide, rest)
  | '[' :: rest => do
    let (b, rest) := openBracket p.flags rest
    let (s, rest) ← readClass? p.flags (rest.length + 1) [] b rest
    return (p.add (.ofSet s.set) s.depth, rest)
  | '?' :: rest => p.repeat? 0 (some 1) rest
  | '*' :: rest => p.repeat? 0 none rest
  | '+' :: rest => p.repeat? 1 none rest
  | '{' :: rest => do
    let (least, most, rest) ← readTimes? p.flags rest
    p.repeat? least most (p.flags.skip rest)
  | '\\' :: rest => do
    let (a, rest) ← readEscape? p.flags rest
    return (p.add (← p.atom? a) 0, rest)
  | '.' :: rest => p.dot?.map fun n => (p.add n 0, rest)
  | '^' :: rest =>
    some (p.add (.look (if p.flags.multiLine then .lineStart p.flags.crlf else .textStart)) 0, rest)
  | '$' :: rest =>
    some (p.add (.look (if p.flags.multiLine then .lineEnd p.flags.crlf else .textEnd)) 0, rest)
  | c :: rest => (p.literal? c false).map fun n => (p.add n 0, rest)

/-- Reads a pattern to its end. Every step takes a character. -/
def readAll? : Nat → Progress → List Char → Option Progress
  | 0, _, _ => none
  | fuel + 1, p, cs =>
    match p.flags.skip cs with
    | [] => some p
    | cs =>
      match p.read? cs with
      | none => none
      | some (p, rest) => readAll? fuel p rest

end Progress

end Parts

/-- How deep a pattern may nest. -/
def nestLimit : Nat := 250

/-- Reads a pattern by the rules. -/
def readNode? (pattern : String) : Option Node := do
  let cs := pattern.toList
  let p ← Progress.readAll? (cs.length + 1) {} cs
  guard p.outer.isEmpty
  let whole := p.content
  guard (whole.depth ≤ nestLimit)
  return whole.node

/-- Reads a pattern. Its whole match is group zero. -/
def readPattern (pattern : String) : Except Fault Node :=
  match readNode? pattern with
  | none => .error .malformed
  | some n =>
    if (Node.group 0 n).fits then .ok (.group 0 n) else .error (.tooLarge Footprint.limit)

end AerWatch.Regex
