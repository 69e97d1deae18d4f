import CnfSearch.Text.Token

namespace CnfSearch.Pattern

-- Lines and columns count from one.
structure Place where
  line : Nat
  column : Nat
  deriving DecidableEq

def Place.after (p : Place) (c : Char) : Place :=
  if c = '\n' then ⟨p.line + 1,1⟩ else ⟨p.line,p.column + 1⟩

def Place.precedes (p q : Place) : Bool :=
  p.line < q.line || p.line == q.line && p.column < q.column

structure Stretch where
  first : Place
  last : Place
  deriving DecidableEq

def Stretch.precedes (s t : Stretch) : Bool :=
  s.first.precedes t.first || s.first == t.first && s.last.precedes t.last

inductive Flaw where
  | setEscape
  | setRangeOrder
  | setRangeBoundary
  | setUnclosed
  | decimalInvalid
  | hexEmpty
  | hexNoCharacter
  | hexDigit
  | escapeUnfinished
  | escapeUnknown
  | flagNegationDangling
  | flagTwice
  | flagNegationTwice
  | flagUnfinished
  | flagUnknown
  | nameTwice
  | nameEmpty
  | nameCharacter
  | nameUnfinished
  | groupUnclosed
  | groupUnopened
  | tooDeep
  | countOrder
  | countEmpty
  | countUnclosed
  | nothingToRepeat
  | boundaryUnclosed
  | boundaryUnknown
  | boundaryUnfinished
  | propertyLetter
  | backreference
  | lookAround
  | notUnicode
  | notUtf8
  | propertyUnknown
  | propertyValueUnknown
  deriving DecidableEq

def depthLimit : Nat := 250

def Flaw.message : Flaw → String
  | .setEscape => "invalid escape sequence found in character class"
  | .setRangeOrder => "invalid character class range, the start must be <= the end"
  | .setRangeBoundary => "invalid range boundary, must be a literal"
  | .setUnclosed => "unclosed character class"
  | .decimalInvalid => "decimal literal invalid"
  | .hexEmpty => "hexadecimal literal empty"
  | .hexNoCharacter => "hexadecimal literal is not a Unicode scalar value"
  | .hexDigit => "invalid hexadecimal digit"
  | .escapeUnfinished => "incomplete escape sequence, reached end of pattern prematurely"
  | .escapeUnknown => "unrecognized escape sequence"
  | .flagNegationDangling => "dangling flag negation operator"
  | .flagTwice => "duplicate flag"
  | .flagNegationTwice => "flag negation operator repeated"
  | .flagUnfinished => "expected flag but got end of regex"
  | .flagUnknown => "unrecognized flag"
  | .nameTwice => "duplicate capture group name"
  | .nameEmpty => "empty capture group name"
  | .nameCharacter => "invalid capture group character"
  | .nameUnfinished => "unclosed capture group name"
  | .groupUnclosed => "unclosed group"
  | .groupUnopened => "unopened group"
  | .tooDeep => s!"exceed the maximum number of nested parentheses/brackets ({depthLimit})"
  | .countOrder => "invalid repetition count range, the start must be <= the end"
  | .countEmpty => "repetition quantifier expects a valid decimal"
  | .countUnclosed => "unclosed counted repetition"
  | .nothingToRepeat => "repetition operator missing expression"
  | .boundaryUnclosed =>
    "special word boundary assertion is either unclosed or contains an invalid character"
  | .boundaryUnknown =>
    "unrecognized special word boundary assertion, " ++
    "valid choices are: start, end, start-half or end-half"
  | .boundaryUnfinished =>
    "found either the beginning of a special word boundary or a bounded repetition " ++
    "on a \\b with an opening brace, but no closing brace"
  | .propertyLetter => "invalid Unicode character class"
  | .backreference => "backreferences are not supported"
  | .lookAround => "look-around, including look-ahead and look-behind, is not supported"
  | .notUnicode => "Unicode not allowed here"
  | .notUtf8 => "pattern can match invalid UTF-8"
  | .propertyUnknown => "Unicode property not found"
  | .propertyValueUnknown => "Unicode property value not found"

structure Refusal where
  flaw : Flaw
  stretch : Stretch
  other : Option Stretch
  deriving DecidableEq

namespace Refusal

def stretches (r : Refusal) : List Stretch :=
  match r.other with
  | none => [r.stretch]
  | some other => if other.precedes r.stretch then [other,r.stretch] else [r.stretch,other]

def carets (column : Nat) : List Stretch → String
  | [] => ""
  | s :: rest =>
    let gap := s.first.column - 1 - column
    let width := max 1 (s.last.column - s.first.column)
    "".pushn ' ' gap ++ "".pushn '^' width ++ carets (column + gap + width) rest

-- Lines are numbered where there are several.
def notate (width number : Nat) (stretches : List Stretch) : List (List Char) → String
  | [] => ""
  | line :: rest =>
    let digits := toString number
    let margin :=
      if width = 0 then "    " else "".pushn ' ' (width - digits.length) ++ digits ++ ": "
    let here := stretches.filter fun s => s.first.line == number && s.last.line == number
    let below :=
      if here.isEmpty then "" else "".pushn ' ' margin.length ++ carets 0 here ++ "\n"
    margin ++ String.ofList line ++ "\n" ++ below ++ notate width (number + 1) stretches rest

def describeAcross (s : Stretch) : String :=
  s!"on line {s.first.line} (column {s.first.column}) through " ++
  s!"line {s.last.line} (column {s.last.column - 1})"

def message (pattern : List Char) (r : Refusal) : String :=
  let lines := Text.lines pattern
  let count := lines.length + (if pattern.getLast? = some '\n' then 1 else 0)
  let width := if count ≤ 1 then 0 else (toString count).length
  let notated := notate width 1 r.stretches lines
  let rule := "".pushn '~' 79 ++ "\n"
  let across := (r.stretches.filter fun s => s.first.line != s.last.line).map describeAcross
  let notes := if across.isEmpty then "" else "\n".intercalate across ++ "\n"
  let shown := if pattern.contains '\n' then rule ++ notated ++ rule ++ notes else notated
  s!"regex parse error:\n{shown}error: {r.flaw.message}"

end Refusal
end CnfSearch.Pattern
