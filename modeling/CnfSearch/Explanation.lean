namespace CnfSearch

-- What went wrong, in words, and what caused it, the nearest cause first.
structure Explanation where
  message : String
  causes : List String
  deriving DecidableEq

namespace Explanation

def plain (message : String) : Explanation := ⟨message,[]⟩

def under (inner : Explanation) (message : String) : Explanation :=
  ⟨message,inner.message :: inner.causes⟩

def numbered : Nat → List String → String
  | _, [] => ""
  | index, cause :: rest => s!"  {index}: {cause}\n" ++ numbered (index + 1) rest

def report (e : Explanation) : String :=
  if e.causes.isEmpty then s!"{e.message}\n"
  else s!"{e.message}\n\nCaused by:\n{numbered 0 e.causes}"

end Explanation
end CnfSearch
