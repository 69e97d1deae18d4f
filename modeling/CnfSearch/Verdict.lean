import CnfSearch.Dimacs.Remarks
import CnfSearch.Search

namespace CnfSearch

inductive Verdict where
  | sat (model : Model)
  | unsat
  deriving DecidableEq

namespace Verdict

def model? : Verdict → Option Model
  | .sat model => some model
  | .unsat => none

def isSat (v : Verdict) : Bool := v.model?.isSome

def witness? (v : Verdict) : Option Assignment := v.model?.map Model.assignment

def ofSearch : Option Model → Verdict
  | some model => .sat model
  | none => .unsat

end Verdict

inductive SolveError where
  | unparsable (cause : Dimacs.ReadError)
  | tooManyVariables (count : Nat)
  | fault (cause : Fault)
  deriving DecidableEq

def Fault.explain : Fault → Explanation
  | .tooWide => .plain "more variables than an index has bits"
  | .misaligned => .plain "an assignment does not fit the variables"
  | .overflow => .plain "an index left the range of its word"

def SolveError.explain : SolveError → Explanation
  | .unparsable cause => cause.explain.under "Failed to parse CNF"
  | .tooManyVariables count =>
    .plain s!"Formula has {count} variables, but at most {Assignment.maxWidth} can be enumerated"
  | .fault cause => cause.explain.under "The search broke off"

def Formula.solve (f : Formula) (wanted : Interest) : Logged (Except SolveError Verdict) :=
  if f.numVariables ≤ Assignment.maxWidth then
    match f.search wanted with
    | .error cause => ⟨.error (.fault cause),[]⟩
    | .ok ⟨found,events⟩ => ⟨.ok (.ofSearch found),events⟩
  else ⟨.error (.tooManyVariables f.numVariables),[]⟩

namespace Dimacs

def Parsed.solve (p : Parsed) (wanted : Interest) : Logged (Except SolveError Verdict) :=
  let solved := p.usable.solve wanted
  ⟨solved.value,p.remarks.filter wanted ++ solved.events⟩

def solveText (text : String) (wanted : Interest) : Logged (Except SolveError Verdict) :=
  let remarks := (parseRemarks text).filter wanted
  match parse text with
  | .error cause => ⟨.error (.unparsable cause),remarks⟩
  | .ok parsed =>
    let solved := parsed.solve wanted
    ⟨solved.value,remarks ++ solved.events⟩

def solveFile (source : Source) (path : String) (wanted : Interest) :
    Logged (Except SolveError Verdict) :=
  match source path with
  | .error cause => ⟨.error (.unparsable (.unreadable path cause)),[]⟩
  | .ok text => solveText text wanted

end Dimacs

def Formula.verdict (f : Formula) : Except SolveError Verdict := (f.solve .none).value

def verdict (text : String) : Except SolveError Verdict := (Dimacs.solveText text .none).value

end CnfSearch
