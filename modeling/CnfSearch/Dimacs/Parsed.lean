import CnfSearch.Dimacs.Reader
import CnfSearch.Formula

namespace CnfSearch.Dimacs

structure Discrepancy where
  declared : Declaration
  foundVariables : Nat
  foundClauses : Nat
  deriving DecidableEq

def Discrepancy.message (d : Discrepancy) : String :=
  s!"problem line declares {d.declared.numVariables} variables and {d.declared.numClauses} clauses, " ++
  s!"but {d.foundVariables} variables and {d.foundClauses} clauses were found"

inductive Parsed where
  | accepted (formula : Formula)
  | rejected (formula : Formula) (discrepancy : Discrepancy)
  deriving DecidableEq

namespace Parsed

def formula : Parsed → Formula
  | .accepted formula => formula
  | .rejected formula _ => formula

def discrepancy? : Parsed → Option Discrepancy
  | .accepted _ => none
  | .rejected _ discrepancy => some discrepancy

def isAccepted (p : Parsed) : Bool := p.discrepancy?.isNone

-- A rejected formula is not used: the empty formula stands in for it.
def usable : Parsed → Formula
  | .accepted formula => formula
  | .rejected _ _ => .empty

def compare (declared : Option Declaration) (formula : Formula) : Parsed :=
  match declared with
  | none => .accepted formula
  | some declared =>
    if declared = ⟨formula.numVariables,formula.numClauses⟩ then .accepted formula
    else .rejected formula ⟨declared,formula.numVariables,formula.numClauses⟩

end Parsed

def Reader.formula (r : Reader) : Formula := ⟨r.clauses⟩

def Reader.result (r : Reader) : Parsed := .compare r.declared r.formula

def parseLines (lines : List (List Char)) : Except ReadError Parsed := do
  let reader ← Reader.start.readLines 1 lines
  let closed ← reader.close
  return closed.result

def parse (text : String) : Except ReadError Parsed := parseLines (Text.lines text.toList)

def parseFile (source : Source) (path : String) : Except ReadError Parsed :=
  match source path with
  | .error cause => .error (.unreadable path cause)
  | .ok text => parse text

end CnfSearch.Dimacs
