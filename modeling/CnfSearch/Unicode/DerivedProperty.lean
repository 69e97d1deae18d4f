import CnfSearch.Unicode.Category
import CnfSearch.Unicode.ListedProperty

namespace CnfSearch.Unicode

namespace Category

def letter : List Category :=
  [.uppercaseLetter,.lowercaseLetter,.titlecaseLetter,.modifierLetter,.otherLetter]

def casedLetter : List Category := [.uppercaseLetter,.lowercaseLetter,.titlecaseLetter]

def mark : List Category := [.nonspacingMark,.spacingMark,.enclosingMark]

def number : List Category := [.decimalNumber,.letterNumber,.otherNumber]

def punctuation : List Category :=
  [.connectorPunctuation,.dashPunctuation,.openPunctuation,.closePunctuation,
    .initialPunctuation,.finalPunctuation,.otherPunctuation]

def symbol : List Category := [.mathSymbol,.currencySymbol,.modifierSymbol,.otherSymbol]

def separator : List Category := [.spaceSeparator,.lineSeparator,.paragraphSeparator]

def all : List Category :=
  letter ++ mark ++ number ++ punctuation ++ symbol ++ separator ++
  [.control,.format,.privateUse]

end Category

-- Properties that the standard defines from categories and listed properties.
namespace DerivedProperty

open Category CodeRanges

def listed (p : ListedProperty) : CodeRanges := p.ranges

def assigned : CodeRanges := (Category.union Category.all).union surrogates

def unassigned : CodeRanges := assigned.complement

def other : CodeRanges := (Category.union [.control,.format,.privateUse]).union unassigned

def lowercase : CodeRanges := (ranges .lowercaseLetter).union (listed .otherLowercase)

def uppercase : CodeRanges := (ranges .uppercaseLetter).union (listed .otherUppercase)

def cased : CodeRanges := unions [lowercase,uppercase,ranges .titlecaseLetter]

def alphabetic : CodeRanges :=
  unions [cased,Category.union [.modifierLetter,.otherLetter,.letterNumber],
    listed .otherAlphabetic]

def numeric : CodeRanges := Category.union number

def math : CodeRanges := (ranges .mathSymbol).union (listed .otherMath)

def patternCharacters : CodeRanges :=
  (listed .patternSyntax).union (listed .patternWhiteSpace)

def idStart : CodeRanges :=
  ((Category.union (.letterNumber :: letter)).union (listed .otherIdStart)).diff
    patternCharacters

def idContinue : CodeRanges :=
  (unions [idStart,
    Category.union [.nonspacingMark,.spacingMark,.decimalNumber,.connectorPunctuation],
    listed .otherIdContinue]).diff patternCharacters

def xidContinue : CodeRanges :=
  idContinue.diff (.ofText
    "37A 309B-309C FC5E-FC63 FDFA-FDFB FE70 FE72 FE74 FE76 FE78 FE7A FE7C FE7E")

def xidStart : CodeRanges := (idStart.inter xidContinue).diff (.ofText "E33 EB3 FF9E-FF9F")

def graphemeExtend : CodeRanges :=
  (Category.union [.enclosingMark,.nonspacingMark]).union (listed .otherGraphemeExtend)

def graphemeBase : CodeRanges :=
  (assigned.diff graphemeExtend).diff (.union surrogates
    (Category.union [.control,.format,.privateUse,.lineSeparator,.paragraphSeparator]))

def defaultIgnorable : CodeRanges :=
  (unions [listed .otherDefaultIgnorableCodePoint,ranges .format,listed .variationSelector]).diff
    (unions [listed .whiteSpace,.ofText "FFF9-FFFB 13430-13440",
      listed .prependedConcatenationMark])

def changesWhenCasemapped : CodeRanges :=
  unions [listed .changesWhenLowercased,listed .changesWhenTitlecased,
    listed .changesWhenUppercased]

def word : CodeRanges :=
  unions [alphabetic,Category.union mark,ranges .decimalNumber,ranges .connectorPunctuation,
    listed .joinControl]

end DerivedProperty
end CnfSearch.Unicode
