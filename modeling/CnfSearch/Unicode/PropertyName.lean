import CnfSearch.Unicode.Age
import CnfSearch.Unicode.Segmentation

namespace CnfSearch.Unicode

-- Names in this module have no capitals, blanks, hyphens and low lines.

def ListedProperty.named? : String → Option ListedProperty
  | "asciihexdigit" | "ahex" => some .asciiHexDigit
  | "bidicontrol" | "bidic" => some .bidiControl
  | "bidimirrored" | "bidim" => some .bidiMirrored
  | "changeswhencasefolded" | "cwcf" => some .changesWhenCasefolded
  | "changeswhenlowercased" | "cwl" => some .changesWhenLowercased
  | "changeswhentitlecased" | "cwt" => some .changesWhenTitlecased
  | "changeswhenuppercased" | "cwu" => some .changesWhenUppercased
  | "dash" => some .dash
  | "deprecated" | "dep" => some .deprecated
  | "diacritic" | "dia" => some .diacritic
  | "emoji" => some .emoji
  | "emojicomponent" | "ecomp" => some .emojiComponent
  | "emojimodifier" | "emod" => some .emojiModifier
  | "emojimodifierbase" | "ebase" => some .emojiModifierBase
  | "emojipresentation" | "epres" => some .emojiPresentation
  | "extendedpictographic" | "extpict" => some .extendedPictographic
  | "extender" | "ext" => some .extender
  | "graphemelink" | "grlink" => some .graphemeLink
  | "hexdigit" | "hex" => some .hexDigit
  | "hyphen" => some .hyphen
  | "idsbinaryoperator" | "idsb" => some .idsBinaryOperator
  | "idstrinaryoperator" | "idst" => some .idsTrinaryOperator
  | "idsunaryoperator" | "idsu" => some .idsUnaryOperator
  | "idcompatmathcontinue" => some .idCompatMathContinue
  | "idcompatmathstart" => some .idCompatMathStart
  | "ideographic" | "ideo" => some .ideographic
  | "joincontrol" | "joinc" => some .joinControl
  | "logicalorderexception" | "loe" => some .logicalOrderException
  | "modifiercombiningmark" | "mcm" => some .modifierCombiningMark
  | "noncharactercodepoint" | "nchar" => some .noncharacterCodePoint
  | "otheralphabetic" | "oalpha" => some .otherAlphabetic
  | "otherdefaultignorablecodepoint" | "odi" => some .otherDefaultIgnorableCodePoint
  | "othergraphemeextend" | "ogrext" => some .otherGraphemeExtend
  | "otheridcontinue" | "oidc" => some .otherIdContinue
  | "otheridstart" | "oids" => some .otherIdStart
  | "otherlowercase" | "olower" => some .otherLowercase
  | "othermath" | "omath" => some .otherMath
  | "otheruppercase" | "oupper" => some .otherUppercase
  | "patternsyntax" | "patsyn" => some .patternSyntax
  | "patternwhitespace" | "patws" => some .patternWhiteSpace
  | "prependedconcatenationmark" | "pcm" => some .prependedConcatenationMark
  | "quotationmark" | "qmark" => some .quotationMark
  | "radical" => some .radical
  | "regionalindicator" | "ri" => some .regionalIndicator
  | "sentenceterminal" | "sterm" => some .sentenceTerminal
  | "softdotted" | "sd" => some .softDotted
  | "terminalpunctuation" | "term" => some .terminalPunctuation
  | "unifiedideograph" | "uideo" => some .unifiedIdeograph
  | "variationselector" | "vs" => some .variationSelector
  | "whitespace" | "wspace" | "space" => some .whiteSpace
  | _ => none

def DerivedProperty.named? : String → Option CodeRanges
  | "alphabetic" | "alpha" => some alphabetic
  | "caseignorable" | "ci" => some Segmentation.caseIgnorable
  | "cased" => some cased
  | "changeswhencasemapped" | "cwcm" => some changesWhenCasemapped
  | "defaultignorablecodepoint" | "di" => some defaultIgnorable
  | "graphemebase" | "grbase" => some graphemeBase
  | "graphemeextend" | "grext" => some graphemeExtend
  | "idcontinue" | "idc" => some idContinue
  | "idstart" | "ids" => some idStart
  | "lowercase" | "lower" => some lowercase
  | "math" => some math
  | "uppercase" | "upper" => some uppercase
  | "xidcontinue" | "xidc" => some xidContinue
  | "xidstart" | "xids" => some xidStart
  | _ => none

-- Names of properties that the standard has, but that no set of characters is kept for.
def otherPropertyNames : String :=
  "bc bidiclass bidimirroringglyph bmg bidipairedbracket bpb bidipairedbrackettype bpt blk block
  canonicalcombiningclass ccc casefolding cf changeswhennfkccasefolded cwkcf ce
  compositionexclusion decompositionmapping dm decompositiontype dt ea eastasianwidth equideo
  equivalentunifiedideograph expandsonnfc xonfc expandsonnfd xonfd expandsonnfkc xonfkc
  expandsonnfkd xonfkd fcnfkc fcnfkcclosure compex fullcompositionexclusion hangulsyllabletype
  hst isc ocomment incb indicconjunctbreak indicpositionalcategory inpc indicsyllabiccategory
  insc jamoshortname jsn jg joininggroup joiningtype jt lb linebreak lc lowercasemapping nfcqc
  nfcquickcheck nfdqc nfdquickcheck nfkccasefold nfkccf nfkcqc nfkcquickcheck nfkcscf
  nfkcsimplecasefold nfkdqc nfkdquickcheck na name namealias nt numerictype numericvalue nv scf
  sfc simplecasefolding simplelowercasemapping slc simpletitlecasemapping stc
  simpleuppercasemapping suc tc titlecasemapping na1 unicode1name uc uppercasemapping
  verticalorientation vo cjkaccountingnumeric kaccountingnumeric cjkcompatibilityvariant
  kcompatibilityvariant kehcat kehdesc kehhg kehifao kehjsesh kehnomirror kehnorotate cjkiicore
  kiicore cjkirggsource kirggsource cjkirghsource kirghsource cjkirgjsource kirgjsource
  cjkirgkpsource kirgkpsource cjkirgksource kirgksource cjkirgmsource kirgmsource cjkirgssource
  kirgssource cjkirgtsource kirgtsource cjkirguksource kirguksource cjkirgusource kirgusource
  cjkirgvsource kirgvsource cjkothernumeric kothernumeric cjkprimarynumeric kprimarynumeric
  cjkrsunicode krsunicode unicoderadicalstroke urs"

def emptyNames : List String :=
  ["cs","surrogate","hrkt","katakanaorhiragana","zzzz","unknown"]

def Category.named? : String → Option (List Category)
  | "lu" | "uppercaseletter" => some [.uppercaseLetter]
  | "ll" | "lowercaseletter" => some [.lowercaseLetter]
  | "lt" | "titlecaseletter" => some [.titlecaseLetter]
  | "lm" | "modifierletter" => some [.modifierLetter]
  | "lo" | "otherletter" => some [.otherLetter]
  | "lc" | "casedletter" => some casedLetter
  | "l" | "letter" => some letter
  | "mn" | "nonspacingmark" => some [.nonspacingMark]
  | "mc" | "spacingmark" => some [.spacingMark]
  | "me" | "enclosingmark" => some [.enclosingMark]
  | "m" | "mark" | "combiningmark" => some mark
  | "nd" | "decimalnumber" | "digit" => some [.decimalNumber]
  | "nl" | "letternumber" => some [.letterNumber]
  | "no" | "othernumber" => some [.otherNumber]
  | "n" | "number" => some number
  | "pc" | "connectorpunctuation" => some [.connectorPunctuation]
  | "pd" | "dashpunctuation" => some [.dashPunctuation]
  | "ps" | "openpunctuation" => some [.openPunctuation]
  | "pe" | "closepunctuation" => some [.closePunctuation]
  | "pi" | "initialpunctuation" => some [.initialPunctuation]
  | "pf" | "finalpunctuation" => some [.finalPunctuation]
  | "po" | "otherpunctuation" => some [.otherPunctuation]
  | "p" | "punctuation" | "punct" => some punctuation
  | "sm" | "mathsymbol" => some [.mathSymbol]
  | "sc" | "currencysymbol" => some [.currencySymbol]
  | "sk" | "modifiersymbol" => some [.modifierSymbol]
  | "so" | "othersymbol" => some [.otherSymbol]
  | "s" | "symbol" => some symbol
  | "zs" | "spaceseparator" => some [.spaceSeparator]
  | "zl" | "lineseparator" => some [.lineSeparator]
  | "zp" | "paragraphseparator" => some [.paragraphSeparator]
  | "z" | "separator" => some separator
  | "cc" | "control" | "cntrl" => some [.control]
  | "cf" | "format" => some [.format]
  | "co" | "privateuse" => some [.privateUse]
  | _ => none

def category? (name : String) : Option CodeRanges :=
  match name with
  | "any" => some [(0,lastCode)]
  | "ascii" => some [(0,0x7F)]
  | "assigned" => some DerivedProperty.assigned
  | "cn" | "unassigned" => some DerivedProperty.unassigned
  | "c" | "other" => some DerivedProperty.other
  | _ => (Category.named? name).map Category.union

def property? (name : String) : Option CodeRanges :=
  ((ListedProperty.named? name).map ListedProperty.ranges).or (DerivedProperty.named? name)

inductive ValuedProperty where
  | category
  | script
  | scriptExtensions
  | age
  | graphemeBreak
  | sentenceBreak
  | wordBreak
  deriving DecidableEq

namespace ValuedProperty

def named? : String → Option ValuedProperty
  | "generalcategory" | "gc" => some .category
  | "script" | "sc" => some .script
  | "scriptextensions" | "scx" => some .scriptExtensions
  | "age" => some .age
  | "graphemeclusterbreak" | "gcb" => some .graphemeBreak
  | "sentencebreak" | "sb" => some .sentenceBreak
  | "wordbreak" | "wb" => some .wordBreak
  | _ => none

def value? (p : ValuedProperty) (value : String) : Option CodeRanges :=
  match p with
  | .category => category? value
  | .script => (Script.find? value).map Script.ranges
  | .scriptExtensions => (Script.find? value).map Script.extended
  | .age => age? value
  | .graphemeBreak => Segmentation.Grapheme.find? value
  | .sentenceBreak => Segmentation.Sentence.find? value
  | .wordBreak => Segmentation.Word.find? value

end ValuedProperty

def isPropertyName (name : String) : Bool :=
  (property? name).isSome || (ValuedProperty.named? name).isSome ||
  (Text.tokens otherPropertyNames.toList).contains name.toList

end CnfSearch.Unicode
