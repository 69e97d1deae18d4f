import CnfSearch.Assignment
import CnfSearch.Formula

namespace CnfSearch

-- The value of a variable is found at the variable's position.
structure Interpretation where
  support : Support
  values : Assignment
  aligned : support.size = values.length

namespace Interpretation

def align (support : Support) (values : Assignment) : Except Fault Interpretation :=
  if aligned : support.size = values.length then .ok ⟨support,values,aligned⟩
  else .error .misaligned

def value? (i : Interpretation) (x : Variable) : Option Bool :=
  (i.support.position? x).bind (i.values[·]?)

end Interpretation

-- A literal over a variable without a value is false, and so is its negation.
def Literal.eval (i : Interpretation) (l : Literal) : Bool :=
  match i.value? l.var with
  | some value => value == l.positive
  | none => false

def Clause.eval (i : Interpretation) (c : Clause) : Bool := c.any (Literal.eval i)

namespace Formula

def eval (i : Interpretation) (f : Formula) : Bool := f.clauses.all (Clause.eval i)

def isSatisfiedBy (f : Formula) (values : Assignment) : Except Fault Bool :=
  (Interpretation.align f.support values).map (eval · f)

end Formula
end CnfSearch
