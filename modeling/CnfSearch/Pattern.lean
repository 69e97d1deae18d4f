import CnfSearch.Pattern.Meaning
import CnfSearch.Pattern.Reader
import CnfSearch.Pattern.Size

namespace CnfSearch

structure Pattern where
  matcher : Pattern.Matcher

namespace Pattern

inductive Failure where
  | refused (refusal : Refusal)
  | tooLarge
  deriving DecidableEq

def ofText (text : List Char) : Except Failure Pattern := do
  let (matcher,_) ← (do (← Node.read text).meaning .standard).mapError Failure.refused
  if matcher.fits then return ⟨matcher⟩
  else throw .tooLarge

def Failure.message (text : List Char) : Failure → String
  | .refused refusal => refusal.message text
  | .tooLarge => s!"Compiled regex exceeds size limit of {Room.limit} bytes."

def read (text : String) : Except String Pattern :=
  (ofText text.toList).mapError (Failure.message text.toList)

def isIn (p : Pattern) (text : String) : Bool := p.matcher.isIn text.toList

end Pattern
end CnfSearch
