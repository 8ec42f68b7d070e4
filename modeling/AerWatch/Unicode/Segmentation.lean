import AerWatch.Unicode.Property.Named
import AerWatch.Unicode.Script

/-!
# Classes of text segmentation

The classes by which text is divided into what a reader takes for one character, into words and into
sentences: `Grapheme.named`, `Word.named` and `Sentence.named`. They follow from other properties by the
rules of the standard.
-/

namespace AerWatch.Unicode.Segmentation

open Property

/-- The characters of a list of ranges that is written in order. -/
def chars (ranges : List (Nat × Nat)) : CharSet := ⟨ranges⟩

/-- A single code point. -/
def code (n : Nat) : CharSet := ⟨[(n, n)]⟩

def mark : CharSet := Category.charSet [.mc]

def format : CharSet := Category.charSet [.cf]

/-- Digits, decimal separators and the signs that stand around numbers. -/
def number : CharSet :=
  .unions [Category.charSet [.nd], chars [(0x66b, 0x66c), (0x19da, 0x19da)],
    prependedConcatenationMark.diff (code 0x70f)]

/-- The joiner and the character that keeps others from being joined. -/
def joiners : CharSet := chars [(0x200c, 0x200d)]

namespace Grapheme

def control : CharSet :=
  .unions [(Category.charSet [.zl, .zp, .cc]).diff (chars [(0xa, 0xa), (0xd, 0xd)]),
    format.diff (.unions [joiners, prependedConcatenationMark, graphemeExtend]),
    (Category.charSet [.cn]).inter defaultIgnorableCodePoint]

def joining : CharSet := graphemeExtend.union emojiModifier

def prepended : CharSet :=
  prependedConcatenationMark.union
    (chars [(0xd4e, 0xd4e), (0x111c2, 0x111c3), (0x113d1, 0x113d1), (0x1193f, 0x1193f),
      (0x11941, 0x11941), (0x11a3a, 0x11a3a), (0x11a84, 0x11a89), (0x11d46, 0x11d46),
      (0x11f02, 0x11f02)])

def spacingMark : CharSet :=
  ((mark.diff graphemeExtend).diff
    (chars [(0x102b, 0x102c), (0x1038, 0x1038), (0x1062, 0x1064), (0x1067, 0x106d),
      (0x1083, 0x1083), (0x1087, 0x108c), (0x108f, 0x108f), (0x109a, 0x109c), (0x1a61, 0x1a61),
      (0x1a63, 0x1a64), (0xaa7b, 0xaa7b), (0xaa7d, 0xaa7d), (0x11720, 0x11721)])).union
    (chars [(0xe33, 0xe33), (0xeb3, 0xeb3)])

def leading : CharSet := chars [(0x1100, 0x115f), (0xa960, 0xa97c)]

def vowel : CharSet :=
  chars [(0x1160, 0x11a7), (0xd7b0, 0xd7c6), (0x16d63, 0x16d63), (0x16d67, 0x16d6a)]

def trailing : CharSet := chars [(0x11a8, 0x11ff), (0xd7cb, 0xd7fb)]

/-- Syllables without a trailing consonant, one in 28 of all. -/
def openSyllable : CharSet := chars ((List.range 399).map fun i => (0xac00 + 28 * i, 0xac00 + 28 * i))

def closedSyllable : CharSet := (chars [(0xac00, 0xd7a3)]).diff openSyllable

/-- The classes with their names in loose form. -/
def named : List (CharSet × List String) :=
  [(code 0xd, ["cr"]), (control, ["cn", "control"]), (joining, ["ex", "extend"]),
   (leading, ["l"]), (code 0xa, ["lf"]), (openSyllable, ["lv"]), (closedSyllable, ["lvt"]),
   (prepended, ["pp", "prepend"]), (regionalIndicator, ["ri", "regionalindicator"]),
   (spacingMark, ["sm", "spacingmark"]), (trailing, ["t"]), (vowel, ["v"]),
   (code 0x200d, ["zwj"])]

end Grapheme

namespace Word

def katakana : CharSet :=
  (Script.charSet "Kana").union
    (chars [(0x3031, 0x3035), (0x309b, 0x309c), (0x30a0, 0x30a0), (0x30fc, 0x30fc),
      (0xff70, 0xff70)])

def hebrewLetter : CharSet := (Script.charSet "Hebr").inter (Category.charSet [.lo])

def joining : CharSet := (graphemeExtend.union mark).union emojiModifier

/-- The scripts that are written without spaces and are left to dictionaries. -/
def unspacedScripts : List String :=
  ["Thai", "Laoo", "Mymr", "Khmr", "Tale", "Talu", "Lana", "Tavt", "Ahom"]

def letter : CharSet :=
  (alphabetic.union
    (chars [(0x2c2, 0x2c5), (0x2d2, 0x2d7), (0x2de, 0x2df), (0x2e5, 0x2eb), (0x2ed, 0x2ed),
      (0x2ef, 0x2ff), (0x55a, 0x55c), (0x55e, 0x55e), (0x58a, 0x58a), (0x5f3, 0x5f3),
      (0x70f, 0x70f), (0xa708, 0xa716), (0xa720, 0xa721), (0xa789, 0xa78a),
      (0xab5b, 0xab5b)])).diff
    (.unions ([ideographic, katakana, hebrewLetter, joining, Script.charSet "Hira"] ++
      unspacedScripts.map Script.charSet))

def formats : CharSet :=
  format.diff (.unions [graphemeExtend, joiners, code 0x200b, prependedConcatenationMark])

def midLetter : CharSet :=
  chars [(0x3a, 0x3a), (0xb7, 0xb7), (0x387, 0x387), (0x55f, 0x55f), (0x5f4, 0x5f4),
    (0x2027, 0x2027), (0xfe13, 0xfe13), (0xfe55, 0xfe55), (0xff1a, 0xff1a)]

def midNumber : CharSet :=
  chars [(0x2c, 0x2c), (0x3b, 0x3b), (0x37e, 0x37e), (0x589, 0x589), (0x60c, 0x60d),
    (0x66c, 0x66c), (0x7f8, 0x7f8), (0x2044, 0x2044), (0xfe10, 0xfe10), (0xfe14, 0xfe14),
    (0xfe50, 0xfe50), (0xfe54, 0xfe54), (0xff0c, 0xff0c), (0xff1b, 0xff1b)]

def midEither : CharSet :=
  chars [(0x2e, 0x2e), (0x2018, 0x2019), (0x2024, 0x2024), (0xfe52, 0xfe52), (0xff07, 0xff07),
    (0xff0e, 0xff0e)]

def space : CharSet :=
  chars [(0x20, 0x20), (0x1680, 0x1680), (0x2000, 0x2006), (0x2008, 0x200a), (0x205f, 0x205f),
    (0x3000, 0x3000)]

/-- The classes with their names in loose form. -/
def named : List (CharSet × List String) :=
  [(letter, ["le", "aletter"]), (code 0xd, ["cr"]), (code 0x22, ["dq", "doublequote"]),
   (joining, ["extend"]),
   ((Category.charSet [.pc]).union (code 0x202f), ["ex", "extendnumlet"]),
   (formats, ["fo", "format"]), (hebrewLetter, ["hl", "hebrewletter"]),
   (katakana, ["ka", "katakana"]), (code 0xa, ["lf"]), (midLetter, ["ml", "midletter"]),
   (midNumber, ["mn", "midnum"]), (midEither, ["mb", "midnumlet"]),
   (chars [(0xb, 0xc), (0x85, 0x85), (0x2028, 0x2029)], ["nl", "newline"]),
   (number.diff (code 0x66c), ["nu", "numeric"]),
   (regionalIndicator, ["ri", "regionalindicator"]), (code 0x27, ["sq", "singlequote"]),
   (space, ["wsegspace"]), (code 0x200d, ["zwj"])]

end Word

namespace Sentence

def lower : CharSet :=
  (lowercase.diff graphemeExtend).diff (chars [(0x10d0, 0x10fa), (0x10fd, 0x10ff)])

def upper : CharSet :=
  (uppercase.union (Category.charSet [.lt])).diff (chars [(0x1c90, 0x1cba), (0x1cbd, 0x1cbf)])

def joining : CharSet := .unions [graphemeExtend, mark, code 0x200d]

def letter : CharSet := (alphabetic.union (code 0x5f3)).diff (.unions [lower, upper, joining])

def separator : CharSet := chars [(0x85, 0x85), (0x2028, 0x2029)]

def space : CharSet :=
  whiteSpace.diff (separator.union (chars [(0xa, 0xa), (0xd, 0xd)]))

/-- Characters that may end a sentence, but stand in numbers and abbreviations, too. -/
def ambiguous : CharSet :=
  chars [(0x2e, 0x2e), (0x2024, 0x2024), (0xfe52, 0xfe52), (0xff0e, 0xff0e)]

def terminal : CharSet := sentenceTerminal.diff ambiguous

/-- Brackets and quotation marks. -/
def closing : CharSet :=
  ((Category.charSet [.ps, .pe, .pi, .pf]).union
    (chars [(0x22, 0x22), (0x27, 0x27), (0x275b, 0x2760), (0x2e00, 0x2e01), (0x2e06, 0x2e08),
      (0x2e0b, 0x2e0b), (0x1f676, 0x1f678)])).diff (.unions [code 0x5f3, ambiguous, terminal])

def continuing : CharSet :=
  chars [(0x2c, 0x2d), (0x3a, 0x3b), (0x37e, 0x37e), (0x55d, 0x55d), (0x60c, 0x60d),
    (0x7f8, 0x7f8), (0x1802, 0x1802), (0x1808, 0x1808), (0x2013, 0x2014), (0x3001, 0x3001),
    (0xfe10, 0xfe11), (0xfe13, 0xfe14), (0xfe31, 0xfe32), (0xfe50, 0xfe51), (0xfe54, 0xfe55),
    (0xfe58, 0xfe58), (0xfe63, 0xfe63), (0xff0c, 0xff0d), (0xff1a, 0xff1b), (0xff64, 0xff64)]

def formats : CharSet := format.diff (.unions [joining, joiners, number])

/-- The classes with their names in loose form. -/
def named : List (CharSet × List String) :=
  [(ambiguous, ["at", "aterm"]), (closing, ["cl", "close"]), (code 0xd, ["cr"]),
   (joining, ["ex", "extend"]), (formats, ["fo", "format"]), (letter, ["le", "oletter"]),
   (code 0xa, ["lf"]), (lower, ["lo", "lower"]), (number, ["nu", "numeric"]),
   (continuing, ["sc", "scontinue"]), (separator, ["se", "sep"]), (space, ["sp"]),
   (terminal, ["st", "sterm"]), (upper, ["up", "upper"])]

end Sentence

end AerWatch.Unicode.Segmentation
