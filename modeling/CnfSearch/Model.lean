import CnfSearch.Interpretation

namespace CnfSearch

-- That the assignment satisfies the formula is no part of the type.
structure Model where
  formula : Formula
  assignment : Assignment
  aligned : formula.support.size = assignment.length
  deriving DecidableEq

namespace Model

def align (formula : Formula) (assignment : Assignment) : Except Fault Model :=
  if aligned : formula.support.size = assignment.length then
    .ok ⟨formula,assignment,aligned⟩
  else .error .misaligned

def bindings (m : Model) : List (Variable × Bool) :=
  m.formula.support.list.zip m.assignment

end Model
end CnfSearch
