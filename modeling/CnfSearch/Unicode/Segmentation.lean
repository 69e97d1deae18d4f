import CnfSearch.Unicode.DerivedProperty
import CnfSearch.Unicode.Script

namespace CnfSearch.Unicode

-- The classes of characters by which a text is cut into graphemes, words and sentences.
namespace Segmentation

open Category DerivedProperty CodeRanges

def script (name : String) : CodeRanges := ((Script.find? name).map Script.ranges).getD []

def carriageReturn : CodeRanges := [(0x0D,0x0D)]

def lineFeed : CodeRanges := [(0x0A,0x0A)]

def joiner : CodeRanges := [(0x200D,0x200D)]

def formatNumbers : CodeRanges := .ofText "600-605 6DD 890-891 8E2 110BD 110CD"

def tags : CodeRanges := .ofText "E0020-E007F"

namespace Grapheme

def extend : CodeRanges := graphemeExtend.union (listed .emojiModifier)

def control : CodeRanges :=
  (unions [Category.union [.lineSeparator,.paragraphSeparator,.control,.format],
    unassigned.inter defaultIgnorable]).diff
  (unions [carriageReturn,lineFeed,.ofText "200C-200D",tags,
    listed .prependedConcatenationMark])

def spacingMark : CodeRanges :=
  (((ranges .spacingMark).diff extend).union (.ofText "E33 EB3")).diff (.ofText
    "102B-102C 1038 1062-1064 1067-106D 1083 1087-108C 108F 109A-109C 1A61 1A63-1A64 AA7B AA7D
    11720-11721")

def prepend : CodeRanges :=
  .ofText
    "600-605 6DD 70F 890-891 8E2 D4E 110BD 110CD 111C2-111C3 113D1 1193F 11941 11A3A 11A84-11A89
    11D46 11F02"

-- Of the composed syllables every twenty-eighth has no final consonant.
def openSyllable : CodeRanges := .ofText "AC00-D788:1C"

def closedSyllable : CodeRanges := (ofText "AC00-D7A3").diff openSyllable

def find? : String → Option CodeRanges
  | "cn" | "control" => some control
  | "cr" => some carriageReturn
  | "lf" => some lineFeed
  | "ex" | "extend" => some extend
  | "l" => some (.ofText "1100-115F A960-A97C")
  | "v" => some (.ofText "1160-11A7 D7B0-D7C6 16D63 16D67-16D6A")
  | "t" => some (.ofText "11A8-11FF D7CB-D7FB")
  | "lv" => some openSyllable
  | "lvt" => some closedSyllable
  | "pp" | "prepend" => some prepend
  | "regionalindicator" | "ri" => some (listed .regionalIndicator)
  | "sm" | "spacingmark" => some spacingMark
  | "zwj" => some joiner
  | _ => none

end Grapheme

namespace Sentence

def paragraphSeparator : CodeRanges := .ofText "85 2028-2029"

def extend : CodeRanges := unions [graphemeExtend,ranges .spacingMark,joiner]

def format : CodeRanges :=
  (ranges .format).diff (unions [.ofText "200C",extend,formatNumbers])

def space : CodeRanges :=
  (listed .whiteSpace).diff (unions [paragraphSeparator,carriageReturn,lineFeed])

def caseless : CodeRanges := .ofText "10D0-10FA 10FD-10FF 1C90-1CBA 1CBD-1CBF"

def lower : CodeRanges := (lowercase.diff graphemeExtend).diff caseless

def upper : CodeRanges := ((ranges .titlecaseLetter).union uppercase).diff caseless

def otherLetter : CodeRanges :=
  (alphabetic.union (.ofText "5F3")).diff (unions [lower,upper,extend])

def numeric : CodeRanges :=
  unions [ranges .decimalNumber,formatNumbers,.ofText "66B-66C 19DA"]

def ambiguousEnd : CodeRanges := .ofText "2E 2024 FE52 FF0E"

def clearEnd : CodeRanges := (listed .sentenceTerminal).diff ambiguousEnd

def close : CodeRanges :=
  ((Category.union [.openPunctuation,.closePunctuation,.initialPunctuation,
      .finalPunctuation]).union
    (.ofText "22 27 275B-2760 2E00-2E01 2E06-2E08 2E0B 1F676-1F678")).diff
  (ambiguousEnd.union clearEnd)

def goesOn : CodeRanges :=
  .ofText
    "2C-2D 3A-3B 37E 55D 60C-60D 7F8 1802 1808 2013-2014 3001 FE10-FE11 FE13-FE14 FE31-FE32
    FE50-FE51 FE54-FE55 FE58 FE63 FF0C-FF0D FF1A-FF1B FF64"

def find? : String → Option CodeRanges
  | "at" | "aterm" => some ambiguousEnd
  | "cl" | "close" => some close
  | "cr" => some carriageReturn
  | "ex" | "extend" => some extend
  | "fo" | "format" => some format
  | "le" | "oletter" => some otherLetter
  | "lf" => some lineFeed
  | "lo" | "lower" => some lower
  | "nu" | "numeric" => some numeric
  | "sc" | "scontinue" => some goesOn
  | "se" | "sep" => some paragraphSeparator
  | "sp" => some space
  | "st" | "sterm" => some clearEnd
  | "up" | "upper" => some upper
  | _ => none

end Sentence

namespace Word

def extend : CodeRanges :=
  unions [graphemeExtend,ranges .spacingMark,listed .emojiModifier]

def format : CodeRanges :=
  (ranges .format).diff (unions [.ofText "200B-200D 70F",tags,formatNumbers])

def hebrewLetter : CodeRanges := (script "hebrew").inter (ranges .otherLetter)

def katakana : CodeRanges :=
  (script "katakana").union (.ofText "3031-3035 309B-309C 30A0 30FC FF70")

def numeric : CodeRanges :=
  unions [ranges .decimalNumber,formatNumbers,.ofText "66B 19DA"]

def unspaced : CodeRanges :=
  unions (["hiragana","thai","lao","myanmar","khmer","taile","newtailue","taitham","taiviet",
    "ahom"].map script)

def letter : CodeRanges :=
  (alphabetic.diff (unions [listed .ideographic,katakana,unspaced,extend,hebrewLetter])).union
    (.ofText
      "2C2-2C5 2D2-2D7 2DE-2DF 2E5-2EB 2ED 2EF-2FF 55A-55C 55E 58A 5F3 70F A708-A716 A720-A721
      A789-A78A AB5B")

def midLetter : CodeRanges := .ofText "3A B7 387 55F 5F4 2027 FE13 FE55 FF1A"

def midNumberLetter : CodeRanges := .ofText "2E 2018-2019 2024 FE52 FF07 FF0E"

def singleQuote : CodeRanges := [(0x27,0x27)]

def find? : String → Option CodeRanges
  | "aletter" | "le" => some letter
  | "cr" => some carriageReturn
  | "doublequote" | "dq" => some [(0x22,0x22)]
  | "ex" | "extendnumlet" => some ((ranges .connectorPunctuation).union (.ofText "202F"))
  | "extend" => some extend
  | "fo" | "format" => some format
  | "hebrewletter" | "hl" => some hebrewLetter
  | "ka" | "katakana" => some katakana
  | "lf" => some lineFeed
  | "mb" | "midnumlet" => some midNumberLetter
  | "midletter" | "ml" => some midLetter
  | "midnum" | "mn" => some (.ofText "2C 3B 37E 589 60C-60D 66C 7F8 2044 FE50 FE54 FF0C FF1B")
  | "newline" | "nl" => some (.ofText "B-C 85 2028-2029")
  | "nu" | "numeric" => some numeric
  | "regionalindicator" | "ri" => some (listed .regionalIndicator)
  | "singlequote" | "sq" => some singleQuote
  | "wsegspace" => some ((ranges .spaceSeparator).diff (.ofText "A0 2007 202F"))
  | "zwj" => some joiner
  | _ => none

end Word

def caseIgnorable : CodeRanges :=
  unions [Category.union [.nonspacingMark,.enclosingMark,.format,.modifierLetter,.modifierSymbol],
    Word.midLetter,Word.midNumberLetter,Word.singleQuote]

end Segmentation
end CnfSearch.Unicode
