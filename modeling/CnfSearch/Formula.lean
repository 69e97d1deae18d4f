import CnfSearch.Support

namespace CnfSearch

structure Formula where
  clauses : List Clause
  deriving DecidableEq

namespace Formula

-- The conjunction of nothing is true under every assignment.
def empty : Formula := ⟨[]⟩

def support (f : Formula) : Support := .ofClauses f.clauses

def numVariables (f : Formula) : Nat := f.support.size
def numClauses (f : Formula) : Nat := f.clauses.length
def numLiterals (f : Formula) : Nat := f.clauses.flatten.length

end Formula

-- A total valuation settles every variable, whether a formula speaks about it or not.
abbrev Valuation := Variable → Bool

def Literal.Holds (v : Valuation) (l : Literal) : Prop := v l.var = l.positive
def Clause.Holds (v : Valuation) (c : Clause) : Prop := ∃ l ∈ c, Literal.Holds v l
def Formula.Holds (v : Valuation) (f : Formula) : Prop := ∀ c ∈ f.clauses, Clause.Holds v c
def Formula.Satisfiable (f : Formula) : Prop := ∃ v, f.Holds v

end CnfSearch
