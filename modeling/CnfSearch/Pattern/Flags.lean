import CnfSearch.Pattern.Node
import CnfSearch.Unicode.DerivedProperty

namespace CnfSearch.Pattern

structure Flags where
  ignoreCase : Bool
  multiLine : Bool
  dotMatchesAll : Bool
  unicode : Bool
  crlf : Bool
  deriving DecidableEq

namespace Flags

def standard : Flags := ⟨false,false,false,true,false⟩

def change (f : Flags) : Flag × Bool → Flags
  | (.ignoreCase,value) => { f with ignoreCase := value }
  | (.multiLine,value) => { f with multiLine := value }
  | (.dotMatchesAll,value) => { f with dotMatchesAll := value }
  | (.unicode,value) => { f with unicode := value }
  | (.crlf,value) => { f with crlf := value }
  | (.swapGreed,_) | (.ignoreBlanks,_) => f

def changeAll (f : Flags) (changes : FlagChanges) : Flags := changes.foldl change f

def isWord (f : Flags) (c : Char) : Bool :=
  if f.unicode then Unicode.DerivedProperty.word.contains c.toNat
  else c.isAlphanum || c == '_'

end Flags

namespace Look

def startsLine (crlf : Bool) (before after : Option Char) : Bool :=
  before.isNone || before == some '\n' ||
  crlf && before == some '\r' && after != some '\n'

def endsLine (crlf : Bool) (before after : Option Char) : Bool :=
  if crlf then after.isNone || after == some '\r' || after == some '\n' && before != some '\r'
  else after.isNone || after == some '\n'

def isTextStart (f : Flags) (look : Look) : Bool :=
  look == .textStart || look == .lineStart && !f.multiLine

def isTextEnd (f : Flags) (look : Look) : Bool :=
  look == .textEnd || look == .lineEnd && !f.multiLine

def holds (f : Flags) (look : Look) (before after : Option Char) : Bool :=
  let wordBefore := before.any f.isWord
  let wordAfter := after.any f.isWord
  match look with
  | .lineStart => if f.multiLine then startsLine f.crlf before after else before.isNone
  | .lineEnd => if f.multiLine then endsLine f.crlf before after else after.isNone
  | .textStart => before.isNone
  | .textEnd => after.isNone
  | .wordBoundary => wordBefore != wordAfter
  | .noWordBoundary => wordBefore == wordAfter
  | .wordStart => !wordBefore && wordAfter
  | .wordEnd => wordBefore && !wordAfter
  | .wordStartHalf => !wordBefore
  | .wordEndHalf => !wordAfter

end Look
end CnfSearch.Pattern
