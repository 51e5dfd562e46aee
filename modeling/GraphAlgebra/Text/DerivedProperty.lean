import GraphAlgebra.Text.CharSet
import GraphAlgebra.Text.Property
import GraphAlgebra.Text.Recent
/-!
# Derived properties of characters

The properties that follow from general categories, from listed properties and from the case
tables, in version 16.0 of the Unicode standard.
-/

namespace GraphAlgebra

namespace CharClass

/-- Punctuation that words can hold between two letters. -/
def joiningInWords : CharClass := ⟨
  [
    39, 40, 46, 47, 58, 59, 183, 184, 903, 904, 1375, 1376, 1524, 1525, 8216, 8218, 8228, 8229,
    8231, 8232, 65043, 65044, 65106, 65107, 65109, 65110, 65287, 65288, 65294, 65295, 65306, 65307]⟩

/-- Characters whose compatibility form is no identifier. -/
def decomposedApart : CharClass := ⟨
  [
    890, 891, 12443, 12445, 64606, 64612, 65018, 65020, 65136, 65137, 65138, 65139, 65140, 65141,
    65142, 65143, 65144, 65145, 65146, 65147, 65148, 65149, 65150, 65151]⟩

/-- Letters whose full folding has several characters. -/
def foldedApart : CharClass := ⟨
  [
    223, 224, 304, 305, 329, 330, 1415, 1416, 7834, 7835, 8064, 8072, 8080, 8088, 8096, 8104,
    8114, 8117, 8119, 8120, 8130, 8133, 8135, 8136, 8178, 8181, 8183, 8184, 64256, 64261, 64262,
    64263, 64275, 64280]⟩

/-- Letters that upper case changes and title case does not. -/
def titleCased : CharClass := ⟨
  [
    453, 454, 456, 457, 459, 460, 498, 499, 4304, 4347, 4349, 4352, 8072, 8080, 8088, 8096, 8104,
    8112, 8124, 8125, 8140, 8141, 8188, 8189]⟩

def ofRuns (rs : List CaseRun) : CharClass := .ofPoints (rs.flatMap (·.points))

end CharClass

namespace CharSet

def lowercase : CharSet := .union (.categories [.ll]) (.listed .otherLowercase)

def uppercase : CharSet := .union (.categories [.lu]) (.listed .otherUppercase)

/-- Characters with a case: small, capital and title-case letters. -/
def cased : CharSet := .union (.categories [.lt]) (.union lowercase uppercase)

/-- Characters that do not count where the case of a letter depends on its neighbours. -/
def caseIgnorable : CharSet :=
  .union (.categories [.mn, .me, .cf, .lm, .sk]) (.listed .joiningInWords)

def alphabetic : CharSet :=
  .union (.categories (.nl :: Category.letters)) (.listed .otherAlphabetic)

def decimalDigits : CharSet := .categories [.nd]

/-- The characters of words: alphabetic characters, marks, decimal digits, connecting punctuation
and the controls of joining. -/
def wordChars : CharSet :=
  .union alphabetic (.union (.categories (.nd :: .pc :: Category.marks)) (.listed .joinControl))

def math : CharSet := .union (.categories [.sm]) (.listed .otherMath)

def graphemeExtend : CharSet := .union (.categories [.mn, .me]) (.listed .otherGraphemeExtend)

def graphemeBase : CharSet :=
  .compl (.union (.categories [.cc, .cf, .cs, .co, .cn, .zl, .zp]) graphemeExtend)

/-- Characters reserved for patterns. -/
def reserved : CharSet := .listed (.union .patternSyntax .patternWhiteSpace)

def idStart : CharSet :=
  .diff (.union (.categories (.nl :: Category.letters)) (.listed .otherIdStart)) reserved

def idContinue : CharSet :=
  .diff (.union idStart (.union (.categories [.mn, .mc, .nd, .pc]) (.listed .otherIdContinue)))
    reserved

def xidContinue : CharSet := .diff idContinue (.listed .decomposedApart)

def xidStart : CharSet :=
  .diff idStart (.listed (.union .decomposedApart
    (.ofPoints [0xE33, 0xEB3, 0xFF9E, 0xFF9F])))

def changesWhenLowercased : CharSet :=
  .listed ((CharClass.union (.ofRuns lowerRuns) (.ofPoints (lowerExpansions.map (·.1)))).diff
    Recent.capital)

def changesWhenUppercased : CharSet :=
  .listed ((CharClass.union (.ofRuns upperRuns) (.ofPoints (upperExpansions.map (·.1)))).diff
    Recent.small)

def changesWhenTitlecased : CharSet :=
  .union (.diff changesWhenUppercased (.listed .titleCased))
    (.listed (.ofPoints [0x1C4, 0x1C7, 0x1CA, 0x1F1]))

def changesWhenCasemapped : CharSet :=
  .union changesWhenLowercased (.union changesWhenUppercased changesWhenTitlecased)

def changesWhenCasefolded : CharSet :=
  .listed ((CharClass.union (.ofRuns foldRuns) .foldedApart).diff
    (.ofPoints [0x1FBE, 0x1FD3, 0x1FE3]))

end CharSet

end GraphAlgebra
