import GraphAlgebra.Text.Age
import GraphAlgebra.Text.GraphemeBreak
import GraphAlgebra.Text.ScriptExtension
import GraphAlgebra.Text.SentenceBreak
/-!
# Properties that patterns can name

The names are those that the library `regex` documents for Unicode classes. A pattern names a
property by itself, as a general category or a script, or by a key and a value. Upper and lower
case, blanks, hyphens and low lines make no difference in such names.
-/

namespace GraphAlgebra

namespace Regex

/-- The name of a property without blanks, hyphens, low lines and a leading `is`, in small
letters. All that is not ASCII is left out too. The name `isc` is an exception, since without
its beginning it would be another one. -/
def normalName (cs : List Char) : String :=
  let cs := cs.map Char.toLower
  let plain (cs : List Char) : List Char :=
    cs.filter fun c => c != ' ' && c != '_' && c != '-' && c.toNat < 128
  match cs with
  | 'i' :: 's' :: r => if plain r = ['c'] then "isc" else String.ofList (plain r)
  | cs => String.ofList (plain cs)

def categoriesNamed? (name : String) : Option (List Category) :=
  match name with
  | "lu" | "uppercaseletter" => some [.lu]
  | "ll" | "lowercaseletter" => some [.ll]
  | "lt" | "titlecaseletter" => some [.lt]
  | "lm" | "modifierletter" => some [.lm]
  | "lo" | "otherletter" => some [.lo]
  | "lc" | "casedletter" => some [.lu, .ll, .lt]
  | "l" | "letter" => some Category.letters
  | "mn" | "nonspacingmark" => some [.mn]
  | "mc" | "spacingmark" => some [.mc]
  | "me" | "enclosingmark" => some [.me]
  | "m" | "mark" | "combiningmark" => some Category.marks
  | "nd" | "decimalnumber" | "digit" => some [.nd]
  | "nl" | "letternumber" => some [.nl]
  | "no" | "othernumber" => some [.no]
  | "n" | "number" => some Category.numbers
  | "pc" | "connectorpunctuation" => some [.pc]
  | "pd" | "dashpunctuation" => some [.pd]
  | "ps" | "openpunctuation" => some [.ps]
  | "pe" | "closepunctuation" => some [.pe]
  | "pi" | "initialpunctuation" => some [.pi]
  | "pf" | "finalpunctuation" => some [.pf]
  | "po" | "otherpunctuation" => some [.po]
  | "p" | "punctuation" | "punct" => some Category.punctuation
  | "sm" | "mathsymbol" => some [.sm]
  | "sc" | "currencysymbol" => some [.sc]
  | "sk" | "modifiersymbol" => some [.sk]
  | "so" | "othersymbol" => some [.so]
  | "s" | "symbol" => some Category.symbols
  | "zs" | "spaceseparator" => some [.zs]
  | "zl" | "lineseparator" => some [.zl]
  | "zp" | "paragraphseparator" => some [.zp]
  | "z" | "separator" => some Category.separators
  | "cc" | "control" | "cntrl" => some [.cc]
  | "cf" | "format" => some [.cf]
  | "co" | "privateuse" => some [.co]
  | "cn" | "unassigned" => some [.cn]
  | "c" | "other" => some [.cc, .cf, .co, .cn, .cs]
  | _ => none

def listedProperties : List (List String × CharClass) :=
  [(["asciihexdigit", "ahex"], .asciiHexDigit),
    (["bidicontrol", "bidic"], .bidiControl),
    (["bidimirrored", "bidim"], .bidiMirrored),
    (["dash"], .dash),
    (["defaultignorablecodepoint", "di"], .defaultIgnorableCodePoint),
    (["deprecated", "dep"], .deprecated),
    (["diacritic", "dia"], .diacritic),
    (["emoji"], .emoji),
    (["emojicomponent", "ecomp"], .emojiComponent),
    (["emojimodifier", "emod"], .emojiModifier),
    (["emojimodifierbase", "ebase"], .emojiModifierBase),
    (["emojipresentation", "epres"], .emojiPresentation),
    (["extendedpictographic", "extpict"], .extendedPictographic),
    (["extender", "ext"], .extender),
    (["graphemelink", "grlink"], .graphemeLink),
    (["hexdigit", "hex"], .hexDigit),
    (["hyphen"], .hyphen),
    (["idcompatmathcontinue"], .idCompatMathContinue),
    (["idcompatmathstart"], .idCompatMathStart),
    (["idsbinaryoperator", "idsb"], .idsBinaryOperator),
    (["idstrinaryoperator", "idst"], .idsTrinaryOperator),
    (["idsunaryoperator", "idsu"], .idsUnaryOperator),
    (["ideographic", "ideo"], .ideographic),
    (["joincontrol", "joinc"], .joinControl),
    (["logicalorderexception", "loe"], .logicalOrderException),
    (["modifiercombiningmark", "mcm"], .modifierCombiningMark),
    (["noncharactercodepoint", "nchar"], .noncharacterCodePoint),
    (["otheralphabetic", "oalpha"], .otherAlphabetic),
    (["otherdefaultignorablecodepoint", "odi"], .otherDefaultIgnorableCodePoint),
    (["othergraphemeextend", "ogrext"], .otherGraphemeExtend),
    (["otheridcontinue", "oidc"], .otherIdContinue),
    (["otheridstart", "oids"], .otherIdStart),
    (["otherlowercase", "olower"], .otherLowercase),
    (["othermath", "omath"], .otherMath),
    (["otheruppercase", "oupper"], .otherUppercase),
    (["patternsyntax", "patsyn"], .patternSyntax),
    (["patternwhitespace", "patws"], .patternWhiteSpace),
    (["prependedconcatenationmark", "pcm"], .prependedConcatenationMark),
    (["quotationmark", "qmark"], .quotationMark),
    (["radical"], .radical),
    (["regionalindicator", "ri"], .regionalIndicator),
    (["sentenceterminal", "sterm"], .sentenceTerminal),
    (["softdotted", "sd"], .softDotted),
    (["terminalpunctuation", "term"], .terminalPunctuation),
    (["unifiedideograph", "uideo"], .unifiedIdeograph),
    (["variationselector", "vs"], .variationSelector),
    (["whitespace", "wspace", "space"], whiteSpace)]

def derivedProperties : List (List String × CharSet) :=
  [(["alphabetic", "alpha"], .alphabetic),
    (["caseignorable", "ci"], .caseIgnorable),
    (["cased"], .cased),
    (["changeswhencasefolded", "cwcf"], .changesWhenCasefolded),
    (["changeswhencasemapped", "cwcm"], .changesWhenCasemapped),
    (["changeswhenlowercased", "cwl"], .changesWhenLowercased),
    (["changeswhentitlecased", "cwt"], .changesWhenTitlecased),
    (["changeswhenuppercased", "cwu"], .changesWhenUppercased),
    (["graphemebase", "grbase"], .graphemeBase),
    (["graphemeextend", "grext"], .graphemeExtend),
    (["idcontinue", "idc"], .idContinue),
    (["idstart", "ids"], .idStart),
    (["lowercase", "lower"], .lowercase),
    (["math"], .math),
    (["uppercase", "upper"], .uppercase),
    (["xidcontinue", "xidc"], .xidContinue),
    (["xidstart", "xids"], .xidStart)]

/-- The general categories of a normal name, with the names for all and for the assigned points. -/
def categorySet? (name : String) : Option CharSet :=
  match name with
  | "any" => some .any
  | "ascii" => some .ascii
  | "assigned" => some (.compl (.categories [.cn]))
  | _ => (categoriesNamed? name).map .categories

def scriptSet? (name : String) : Option CharSet := (scriptNamed? name).map .listed

def named? {α : Type} (entries : List (List String × α)) (name : String) : Option α :=
  (entries.find? (·.1.contains name)).map (·.2)

/-- The set that a normal name stands for by itself: a property, a category or a script. -/
def propertyNamed? (name : String) : Option CharSet :=
  ((named? listedProperties name).map .listed).or
    ((named? derivedProperties name).or ((categorySet? name).or (scriptSet? name)))

def propertyValued? (key value : String) : Option CharSet :=
  match key with
  | "gc" | "generalcategory" => categorySet? value
  | "sc" | "script" => scriptSet? value
  | "scx" | "scriptextensions" => scriptExtensionNamed? value
  | "age" => (ageNamed? value).map .listed
  | "gcb" | "graphemeclusterbreak" => named? GraphemeBreak.classes value
  | "wb" | "wordbreak" => named? WordBreak.classes value
  | "sb" | "sentencebreak" => named? SentenceBreak.classes value
  | _ => none

/-- The sets with a name between `[:` and `:]`. -/
def namedSet? (name : String) : Option CharSet :=
  match name with
  | "alnum" => some (.ranges [('0', '9'), ('A', 'Z'), ('a', 'z')])
  | "alpha" => some (.ranges [('A', 'Z'), ('a', 'z')])
  | "ascii" => some (.range '\x00' '\x7f')
  | "blank" => some (.ranges [('\t', '\t'), (' ', ' ')])
  | "cntrl" => some (.ranges [('\x00', '\x1f'), ('\x7f', '\x7f')])
  | "digit" => some (.range '0' '9')
  | "graph" => some (.range '!' '~')
  | "lower" => some (.range 'a' 'z')
  | "print" => some (.range ' ' '~')
  | "punct" => some (.ranges [('!', '/'), (':', '@'), ('[', '\x60'), ('\x7b', '~')])
  | "space" => some (.ranges [('\t', '\r'), (' ', ' ')])
  | "upper" => some (.range 'A' 'Z')
  | "word" => some (.ranges [('0', '9'), ('A', 'Z'), ('_', '_'), ('a', 'z')])
  | "xdigit" => some (.ranges [('0', '9'), ('A', 'F'), ('a', 'f')])
  | _ => none

end Regex

end GraphAlgebra
