import GraphAlgebra.Text.DerivedProperty
import GraphAlgebra.Text.Script
/-!
# Word breaks

The classes of characters that decide where a text can be cut into words.
-/

namespace GraphAlgebra

namespace WordBreak

def ofScripts (names : List String) : CharClass :=
  (names.filterMap scriptNamed?).foldl .union .empty

/-- Characters that count as letters without being alphabetic. -/
def letterLike : CharClass := ⟨
  [
    184, 185, 706, 710, 722, 728, 734, 736, 741, 748, 749, 750, 751, 768, 1370, 1373, 1374, 1375,
    1418, 1419, 1523, 1524, 42760, 42775, 42784, 42786, 42889, 42891, 43867, 43868]⟩

/-- Characters that count as Katakana in spite of their script. -/
def katakanaLike : CharClass :=
  ⟨[12337, 12342, 12443, 12445, 12448, 12449, 12540, 12541, 65392, 65393]⟩

/-- Characters that words can hold between two letters. -/
def midLetter : CharClass := ⟨
  [
    58, 59, 183, 184, 903, 904, 1375, 1376, 1524, 1525, 8231, 8232, 65043, 65044, 65109, 65110,
    65306, 65307]⟩

def midNum : CharClass := ⟨
  [
    44, 45, 59, 60, 894, 895, 1417, 1418, 1548, 1550, 1644, 1645, 2040, 2041, 8260, 8261, 65040,
    65041, 65044, 65045, 65104, 65105, 65108, 65109, 65292, 65293, 65307, 65308]⟩

def midNumLet : CharClass :=
  ⟨[46, 47, 8216, 8218, 8228, 8229, 65106, 65107, 65287, 65288, 65294, 65295]⟩

/-- Characters that connect letters, digits and Katakana. -/
def extendNumLet : CharClass :=
  ⟨[95, 96, 8239, 8240, 8255, 8257, 8276, 8277, 65075, 65077, 65101, 65104, 65343, 65344]⟩

def segmentSpace : CharClass :=
  ⟨[32, 33, 5760, 5761, 8192, 8199, 8200, 8203, 8287, 8288, 12288, 12289]⟩

def extend : CharSet :=
  .diff (.union .graphemeExtend (.union (.categories [.mc]) (.listed .emojiModifier)))
    (.single '\u200d')

def format : CharSet :=
  .diff (.categories [.cf])
    (.union (.listed (.union .prependedConcatenationMark (.ofPoints [0x200B, 0x200D]))) extend)

/-- Signs that span digits and count as digits. -/
def digitSigns : CharClass := .diff .prependedConcatenationMark (.range 0x70F 0x70F)

def numeric : CharSet :=
  .union .decimalDigits (.listed (.union digitSigns (.ofPoints [0x66B, 0x19DA])))

def hebrewLetter : CharSet := .inter (.listed (ofScripts ["hebrew"])) (.categories [.lo])

def katakana : CharClass := .union (ofScripts ["katakana"]) katakanaLike

/-- Scripts that set no blanks between words. -/
def unspaced : CharClass :=
  ofScripts ["hiragana", "thai", "lao", "mymr", "khmr", "tale", "talu", "lana", "tavt", "ahom"]

def letter : CharSet :=
  .union (.single '\u070f')
    (.diff (.union .alphabetic (.listed letterLike))
      (.union (.listed (.union .ideographic (.union katakana unspaced)))
        (.union extend hebrewLetter)))

def classes : List (List String × CharSet) :=
  [(["aletter", "le"], letter),
    (["cr"], .single '\r'),
    (["doublequote", "dq"], .single '"'),
    (["extend"], extend),
    (["extendnumlet", "ex"], .listed extendNumLet),
    (["format", "fo"], format),
    (["hebrewletter", "hl"], hebrewLetter),
    (["katakana", "ka"], .listed katakana),
    (["lf"], .single '\n'),
    (["midletter", "ml"], .listed midLetter),
    (["midnum", "mn"], .listed midNum),
    (["midnumlet", "mb"], .listed midNumLet),
    (["newline", "nl"], .listed (.ofPoints [11, 12, 0x85, 0x2028, 0x2029])),
    (["numeric", "nu"], numeric),
    (["regionalindicator", "ri"], .listed .regionalIndicator),
    (["singlequote", "sq"], .single '\''),
    (["wsegspace"], .listed segmentSpace),
    (["zwj"], .single '\u200d')]

end WordBreak

end GraphAlgebra
