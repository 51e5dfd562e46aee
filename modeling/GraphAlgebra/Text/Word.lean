import GraphAlgebra.Text.DerivedProperty
/-!
# Letters, numbers and words

A character is alphanumeric when it is alphabetic or a number of any kind. Here the characters of
version 17.0 of the Unicode standard count; `CharSet.wordChars` holds those that patterns take
for the characters of words.
-/

namespace GraphAlgebra

def isAlphabetic (c : Char) : Bool := CharSet.alphabetic.holds c || Recent.alphabetic.holds c

def isNumber (c : Char) : Bool :=
  Category.numbers.contains (category c) || Recent.number.holds c

def isAlphanumeric (c : Char) : Bool := isAlphabetic c || isNumber c

/-- Whether the character has a case. The pharyngeal fricative lost its case with version 17.0. -/
def isCased (c : Char) : Bool :=
  (CharSet.cased.holds c || Recent.cased.holds c) && c != 'ʕ'

def isCaseIgnorable (c : Char) : Bool :=
  CharSet.caseIgnorable.holds c || Recent.caseIgnorable.holds c

end GraphAlgebra
