import GraphAlgebra.Text.WordBreak
/-!
# Sentence breaks

The classes of characters that decide where a text can be cut into sentences.
-/

namespace GraphAlgebra

namespace SentenceBreak

/-- Punctuation after which a sentence goes on. -/
def continues : CharClass := ⟨
  [
    44, 46, 58, 60, 894, 895, 1373, 1374, 1548, 1550, 2040, 2041, 6146, 6147, 6152, 6153, 8211,
    8213, 12289, 12290, 65040, 65042, 65043, 65045, 65073, 65075, 65104, 65106, 65108, 65110,
    65112, 65113, 65123, 65124, 65292, 65294, 65306, 65308, 65380, 65381]⟩

/-- Quotation marks that are not opening or closing punctuation. -/
def quoteLike : CharClass :=
  ⟨[34, 35, 39, 40, 10075, 10081, 11776, 11778, 11782, 11785, 11787, 11788, 128630, 128633]⟩

/-- Full stops, which need not end a sentence. -/
def fullStop : CharClass := .ofPoints [0x2E, 0x2024, 0xFE52, 0xFF0E]

def extend : CharSet :=
  .union .graphemeExtend (.union (.categories [.mc]) (.single '\u200d'))

def format : CharSet :=
  .diff (.categories [.cf]) (.union extend (.listed WordBreak.digitSigns))

/-- Line ends other than those of ASCII. -/
def separator : CharClass := .ofPoints [0x85, 0x2028, 0x2029]

def blank : CharClass := .diff whiteSpace (.union separator (.ofPoints [10, 13]))

/-- Small letters of the scripts whose sentences begin with capital letters. -/
def lower : CharSet :=
  .diff .lowercase (.union .graphemeExtend (.listed ⟨[0x10D0, 0x10FB, 0x10FD, 0x1100]⟩))

def upper : CharSet :=
  .diff (.union .uppercase (.categories [.lt])) (.listed ⟨[0x1C90, 0x1CBB, 0x1CBD, 0x1CC0]⟩)

def otherLetter : CharSet :=
  .diff (.union .alphabetic (.single '׳')) (.union extend (.union lower upper))

def numeric : CharSet :=
  .union .decimalDigits (.listed (.union WordBreak.digitSigns (.ofPoints [0x66B, 0x66C, 0x19DA])))

/-- Ends of sentences other than full stops. -/
def terminator : CharClass := .diff .sentenceTerminal fullStop

def close : CharSet :=
  .diff (.union (.categories [.ps, .pe, .pi, .pf]) (.listed quoteLike)) (.listed terminator)

/-- The classes with their names. All other characters have no class here. -/
def classes : List (List String × CharSet) :=
  [(["aterm", "at"], .listed fullStop),
    (["cr"], .single '\r'),
    (["close", "cl"], close),
    (["extend", "ex"], extend),
    (["format", "fo"], format),
    (["lf"], .single '\n'),
    (["lower", "lo"], lower),
    (["numeric", "nu"], numeric),
    (["oletter", "le"], otherLetter),
    (["scontinue", "sc"], .listed continues),
    (["sterm", "st"], .listed terminator),
    (["sep", "se"], .listed separator),
    (["sp"], .listed blank),
    (["upper", "up"], upper)]

end SentenceBreak

end GraphAlgebra
