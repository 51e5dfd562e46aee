import GraphAlgebra.Text.DerivedProperty
/-!
# Grapheme breaks

The classes of characters that decide where a text can be cut into graphemes.
-/

namespace GraphAlgebra

namespace GraphemeBreak

/-- Consonants that stand before the rest of their syllable. -/
def prefixedConsonants : CharClass := ⟨
  [
    3406, 3407, 70082, 70084, 70609, 70610, 71999, 72000, 72001, 72002, 72250, 72251, 72324,
    72330, 73030, 73031, 73474, 73475]⟩

/-- Spacing marks that are graphemes of their own. -/
def ownSyllableMarks : CharClass := ⟨
  [
    4139, 4141, 4152, 4153, 4194, 4197, 4199, 4206, 4227, 4228, 4231, 4237, 4239, 4240, 4250,
    4253, 6753, 6754, 6755, 6757, 43643, 43644, 43645, 43646, 71456, 71458]⟩

/-- Signs and consonants that belong to the grapheme after them. -/
def prepend : CharSet := .listed (.union .prependedConcatenationMark prefixedConsonants)

def extend : CharSet := .union .graphemeExtend (.listed .emojiModifier)

/-- Controls and ignorable points without a character, each of which stands alone. -/
def control : CharSet :=
  .diff
    (.union (.categories [.zl, .zp, .cc, .cf])
      (.inter (.categories [.cn]) (.listed .defaultIgnorableCodePoint)))
    (.union (.listed (.ofPoints [10, 13, 0x200C, 0x200D])) (.union prepend extend))

def spacingMark : CharSet :=
  .diff (.union (.categories [.mc]) (.listed (.ofPoints [0xE33, 0xEB3])))
    (.union extend (.listed ownSyllableMarks))

/-- Initial consonants of Korean syllables. -/
def leading : CharClass := ⟨[0x1100, 0x1160, 0xA960, 0xA97D]⟩

/-- Vowels of Korean syllables, and signs that behave like them. -/
def vowel : CharClass :=
  ⟨[0x1160, 0x11A8, 0xD7B0, 0xD7C7, 0x16D63, 0x16D64, 0x16D67, 0x16D6B]⟩

/-- Final consonants of Korean syllables. -/
def trailing : CharClass := ⟨[0x11A8, 0x1200, 0xD7CB, 0xD7FC]⟩

/-- Korean syllables without a final consonant: each is followed by its 27 syllables with one. -/
def openSyllable : CharClass := .ofPoints ((List.range 399).map fun i => 0xAC00 + 28 * i)

def closedSyllable : CharClass := .diff (.range 0xAC00 0xD7A3) openSyllable

/-- The classes with their names. All other characters have no class here. -/
def classes : List (List String × CharSet) :=
  [(["control", "cn"], control),
    (["cr"], .single '\r'),
    (["extend", "ex"], extend),
    (["l"], .listed leading),
    (["lf"], .single '\n'),
    (["lv"], .listed openSyllable),
    (["lvt"], .listed closedSyllable),
    (["prepend", "pp"], prepend),
    (["regionalindicator", "ri"], .listed .regionalIndicator),
    (["spacingmark", "sm"], spacingMark),
    (["t"], .listed trailing),
    (["v"], .listed vowel),
    (["zwj"], .single '\u200d')]

end GraphemeBreak

end GraphAlgebra
