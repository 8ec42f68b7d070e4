/-!
# Options of commands

`readArguments` reads arguments one after the other. An option has a long name and maybe a letter;
letters may be bundled, and the last one may take a value. A word that begins with a hyphen is no
value, and after a word of two hyphens every word is an operand. Reading stops at the first fault, and
also at an option that asks for information.
-/

namespace AerWatch.CommandLine

/-- What can be asked for in place of a run. -/
inductive Information where
  | help
  | version
deriving DecidableEq

/-- Why no command is run. -/
inductive Stop where
  | inform (i : Information)
  /-- The arguments make no sense. -/
  | misuse
deriving DecidableEq

/-- What an option does. -/
inductive Effect where
  /-- Takes a value that passes a test, and stands once at most. -/
  | value (accepts : String → Bool)
  /-- Stands once at most. -/
  | flag
  /-- May stand several times. -/
  | count
  | inform (i : Information)

/-- An option by its names. -/
structure Switch where
  letter : Option Char
  name : String
  effect : Effect

/-- The arguments that a command takes: its options, tests for its operands, and the words that end the
reading where an operand could stand. -/
structure Signature where
  switches : List Switch
  operands : List (String → Bool) := []
  subcommands : List String := []

/-- The arguments that were read: options by name with their values, and operands, the latest first. -/
structure Arguments where
  options : List (String × String) := []
  operands : List String := []
  /-- Whether the last word was refused as the value of an option. A subcommand is still read then. -/
  refused : Bool := false
deriving DecidableEq

namespace Arguments

/-- The value of an option. -/
def value? (a : Arguments) (name : String) : Option String := a.options.lookup name

def has (a : Arguments) (name : String) : Bool := (a.value? name).isSome

end Arguments

/-- Takes in an option that has a value or, if it takes none, the empty one. -/
def Switch.apply (s : Switch) (value : String) (a : Arguments) : Except Stop Arguments :=
  let taken := { a with options := (s.name, value) :: a.options }
  match s.effect with
  | .inform i => .error (.inform i)
  | .count => .ok taken
  | .flag => if a.has s.name then .error .misuse else .ok taken
  | .value accepts => if a.has s.name || !accepts value then .error .misuse else .ok taken

/-- Whether a word is read as options. A hyphen alone is a word like others. -/
def isOption (word : String) : Bool := word.startsWith "-" && word != "-"

section Reading

variable (sig : Signature)

/-- Takes in an option whose value is the next word. -/
def applyNext (s : Switch) (a : Arguments) (rest : List String) :
    Except Stop (Arguments × List String) :=
  match rest with
  | [] => .error .misuse
  | word :: rest =>
    if isOption word then .error .misuse
    else .ok (((s.apply word a).toOption).getD { a with refused := true }, rest)

/-- Reads bundled letters. -/
def readLetters (a : Arguments) (rest : List String) :
    List Char → Except Stop (Arguments × List String)
  | [] => .ok (a, rest)
  | c :: cs =>
    match sig.switches.find? (·.letter == some c) with
    | none => .error .misuse
    | some s =>
      match s.effect, cs with
      | .value _, [] => applyNext s a rest
      | .value _, '=' :: value => (s.apply (String.ofList value) a).map fun a => (a, rest)
      | .value _, value => (s.apply (String.ofList value) a).map fun a => (a, rest)
      | _, _ =>
        match s.apply "" a with
        | .error stop => .error stop
        | .ok a => readLetters a rest cs

/-- Reads a long name, after which a value may stand behind an equals sign. -/
def readName (a : Arguments) (rest : List String) (word : List Char) :
    Except Stop (Arguments × List String) :=
  let (name, value) := word.span (· != '=')
  match sig.switches.find? (·.name == String.ofList name) with
  | none => .error .misuse
  | some s =>
    match s.effect, value with
    | .value _, [] => applyNext s a rest
    | .value _, _ :: value => (s.apply (String.ofList value) a).map fun a => (a, rest)
    | _, [] => (s.apply "" a).map fun a => (a, rest)
    | _, _ => .error .misuse

/-- Takes in an operand. -/
def readOperand (a : Arguments) (word : String) : Except Stop Arguments :=
  match sig.operands[a.operands.length]? with
  | none => .error .misuse
  | some accepts =>
    if accepts word then .ok { a with operands := word :: a.operands } else .error .misuse

/-- Takes in operands up to the end. -/
def readOperands (a : Arguments) (words : List String) : Except Stop Arguments :=
  words.foldlM (readOperand sig) a

/-- Reads arguments up to the end or to a subcommand. Every step takes a word. -/
def readFrom : Nat → Arguments → List String → Except Stop (Arguments × List String)
  | 0, a, words => .ok (a, words)
  | _ + 1, a, [] => .ok (a, [])
  | fuel + 1, a, word :: rest =>
    if sig.subcommands.contains word then .ok (a, word :: rest)
    else if a.refused then .error .misuse
    else if word = "--" then (readOperands sig a rest).map fun a => (a, [])
    else
      let read :=
        match word.toList with
        | '-' :: '-' :: name => readName sig a rest name
        | '-' :: c :: letters => readLetters sig a rest (c :: letters)
        | _ => (readOperand sig a word).map fun a => (a, rest)
      match read with
      | .error stop => .error stop
      | .ok (a, rest) => readFrom fuel a rest

/-- Reads the arguments of a command up to the end or to a subcommand. -/
def readArguments (words : List String) : Except Stop (Arguments × List String) := do
  let (a, rest) ← readFrom sig words.length {} words
  if a.refused && rest.isEmpty then throw .misuse
  return (a, rest)

end Reading

end AerWatch.CommandLine
