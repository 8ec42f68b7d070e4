import AerWatch.Unicode.Category
import AerWatch.Unicode.Property

/-!
# Names of binary properties

The properties under their names. Some of them only list what a property holds beyond the general
categories that make up the rest of it.
-/

namespace AerWatch.Unicode.Property

/-- The characters of a property that are in none of a number of categories. -/
def beyond (s : CharSet) (cs : List Category) : CharSet := s.diff (Category.charSet cs)

def otherAlphabetic : CharSet := beyond alphabetic [.lu, .ll, .lt, .lm, .lo, .nl]

def otherLowercase : CharSet := beyond lowercase [.ll]

def otherUppercase : CharSet := beyond uppercase [.lu]

def otherMath : CharSet := beyond math [.sm]

def otherGraphemeExtend : CharSet := beyond graphemeExtend [.mn, .me]

def otherDefaultIgnorableCodePoint : CharSet :=
  (beyond defaultIgnorableCodePoint [.cf]).diff variationSelector

def otherIdStart : CharSet := beyond idStart [.lu, .ll, .lt, .lm, .lo, .nl]

def otherIdContinue : CharSet := (beyond idContinue [.mn, .mc, .nd, .pc]).diff idStart

/-- The properties with their names in loose form. -/
def named : List (CharSet × List String) :=
  [(asciiHexDigit, ["ahex", "asciihexdigit"]), (alphabetic, ["alpha", "alphabetic"]),
   (bidiControl, ["bidic", "bidicontrol"]), (bidiMirrored, ["bidim", "bidimirrored"]),
   (caseIgnorable, ["ci", "caseignorable"]), (cased, ["cased"]),
   (changesWhenCasefolded, ["cwcf", "changeswhencasefolded"]),
   (changesWhenCasemapped, ["cwcm", "changeswhencasemapped"]),
   (changesWhenLowercased, ["cwl", "changeswhenlowercased"]),
   (changesWhenTitlecased, ["cwt", "changeswhentitlecased"]),
   (changesWhenUppercased, ["cwu", "changeswhenuppercased"]), (dash, ["dash"]),
   (defaultIgnorableCodePoint, ["di", "defaultignorablecodepoint"]),
   (deprecated, ["dep", "deprecated"]), (diacritic, ["dia", "diacritic"]), (emoji, ["emoji"]),
   (emojiComponent, ["ecomp", "emojicomponent"]), (emojiModifier, ["emod", "emojimodifier"]),
   (emojiModifierBase, ["ebase", "emojimodifierbase"]),
   (emojiPresentation, ["epres", "emojipresentation"]),
   (extendedPictographic, ["extpict", "extendedpictographic"]), (extender, ["ext", "extender"]),
   (graphemeBase, ["grbase", "graphemebase"]), (graphemeExtend, ["grext", "graphemeextend"]),
   (graphemeLink, ["grlink", "graphemelink"]), (hexDigit, ["hex", "hexdigit"]),
   (hyphen, ["hyphen"]), (idCompatMathContinue, ["idcompatmathcontinue"]),
   (idCompatMathStart, ["idcompatmathstart"]),
   (idsBinaryOperator, ["idsb", "idsbinaryoperator"]),
   (idsTrinaryOperator, ["idst", "idstrinaryoperator"]),
   (idsUnaryOperator, ["idsu", "idsunaryoperator"]), (idContinue, ["idc", "idcontinue"]),
   (idStart, ["ids", "idstart"]), (ideographic, ["ideo", "ideographic"]),
   (joinControl, ["joinc", "joincontrol"]),
   (logicalOrderException, ["loe", "logicalorderexception"]),
   (lowercase, ["lower", "lowercase"]), (math, ["math"]),
   (modifierCombiningMark, ["mcm", "modifiercombiningmark"]),
   (noncharacterCodePoint, ["nchar", "noncharactercodepoint"]),
   (otherAlphabetic, ["oalpha", "otheralphabetic"]),
   (otherDefaultIgnorableCodePoint, ["odi", "otherdefaultignorablecodepoint"]),
   (otherGraphemeExtend, ["ogrext", "othergraphemeextend"]),
   (otherIdContinue, ["oidc", "otheridcontinue"]), (otherIdStart, ["oids", "otheridstart"]),
   (otherLowercase, ["olower", "otherlowercase"]), (otherMath, ["omath", "othermath"]),
   (otherUppercase, ["oupper", "otheruppercase"]), (patternSyntax, ["patsyn", "patternsyntax"]),
   (patternWhiteSpace, ["patws", "patternwhitespace"]),
   (prependedConcatenationMark, ["pcm", "prependedconcatenationmark"]),
   (quotationMark, ["qmark", "quotationmark"]), (radical, ["radical"]),
   (regionalIndicator, ["ri", "regionalindicator"]),
   (sentenceTerminal, ["sterm", "sentenceterminal"]), (softDotted, ["sd", "softdotted"]),
   (terminalPunctuation, ["term", "terminalpunctuation"]),
   (unifiedIdeograph, ["uideo", "unifiedideograph"]), (uppercase, ["upper", "uppercase"]),
   (variationSelector, ["vs", "variationselector"]),
   (whiteSpace, ["wspace", "space", "whitespace"]), (xidContinue, ["xidc", "xidcontinue"]),
   (xidStart, ["xids", "xidstart"])]

end AerWatch.Unicode.Property
