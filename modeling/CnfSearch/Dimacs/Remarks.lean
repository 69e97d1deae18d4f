import CnfSearch.Journal

namespace CnfSearch.Dimacs

namespace Reader

def dataRemarks (r : Reader) (number : Nat) (data : List Char) : List Event :=
  if !r.inBlock && !opensBlock data then [.preamble number]
  else if r.pending.isNone && data = ['0'] then [.emptyClause number]
  else []

def remarks (r : Reader) (number : Nat) (text : List Char) : List Event :=
  match Line.read text with
  | .blank | .comment | .endMarker => []
  | .problem _ trailing =>
    (if 0 < trailing then [.trailingTokens trailing] else []) ++
    (if r.declared.isSome then [.repeatedProblem number] else [])
  | .malformedProblem text => [.malformedProblem number text]
  | .data data => r.dataRemarks number data

-- The summary is left out when the last clause cannot be read.
def closingRemarks (r : Reader) : List Event :=
  (match r.pending with
    | none => []
    | some f => [.unterminated f.line]) ++
  (match r.close with
    | .error _ => []
    | .ok closed => [.parsed closed.formula.numClauses closed.formula.numVariables])

def lineRemarks (r : Reader) (number : Nat) : List (List Char) → List Event
  | [] => r.closingRemarks
  | text :: rest =>
    r.remarks number text ++
    match r.readLine number text with
    | .error _ => []
    | .ok ⟨after,true⟩ => after.closingRemarks
    | .ok ⟨after,false⟩ => after.lineRemarks (number + 1) rest

end Reader

def parseRemarks (text : String) : List Event :=
  Reader.start.lineRemarks 1 (Text.lines text.toList)

def Parsed.remarks : Parsed → List Event
  | .accepted _ => []
  | .rejected _ discrepancy => [.discarded discrepancy]

end CnfSearch.Dimacs
