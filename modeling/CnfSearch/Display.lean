import CnfSearch.Model
import CnfSearch.Text.Numeral

namespace CnfSearch

def Variable.render (x : Variable) : List Char := 'x' :: Text.Numeral.ofNat x.id

def Literal.render (l : Literal) : List Char :=
  if l.positive then l.var.render else '¬' :: l.var.render

def Clause.render (c : Clause) : List Char :=
  '(' :: [' ','∨',' '].intercalate (c.map Literal.render) ++ [')']

def Formula.render (f : Formula) : List Char :=
  "CNF with ".toList ++ Text.Numeral.ofNat f.numVariables ++ " variables (".toList ++
  [' ','∧',' '].intercalate (f.clauses.map Clause.render) ++ [')']

def Model.renderBinding (binding : Variable × Bool) : List Char :=
  '\n' :: ' ' :: ' ' :: binding.1.render ++ ':' :: ' ' ::
  (if binding.2 then "true".toList else "false".toList)

def Model.render (m : Model) : List Char :=
  "Model for ".toList ++ m.formula.render ++ '\n' :: "Assignment:".toList ++
  m.bindings.flatMap Model.renderBinding

def Variable.display (x : Variable) : String := String.ofList x.render
def Literal.display (l : Literal) : String := String.ofList l.render
def Clause.display (c : Clause) : String := String.ofList (Clause.render c)
def Formula.display (f : Formula) : String := String.ofList f.render
def Model.display (m : Model) : String := String.ofList m.render

end CnfSearch
