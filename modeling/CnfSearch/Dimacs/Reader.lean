import CnfSearch.Dimacs.Line
import CnfSearch.Dimacs.Token
import CnfSearch.Storage

namespace CnfSearch.Dimacs

inductive ReadError where
  | unreadable (path : String) (cause : FileError)
  | malformedLiteral (line : Nat) (clause token : List Char) (cause : VariableError)
  deriving DecidableEq

def ReadError.explain : ReadError → Explanation
  | .unreadable path cause =>
    cause.explain.under s!"I/O error occurred while reading CNF file '{path}'"
  | .malformedLiteral line clause token cause =>
    let token := String.ofList token
    let clause := String.ofList clause
    cause.explain.under
      s!"Invalid literal '{token}' found in clause starting at line {line}: '{clause}'"

structure Fragment where
  line : Nat
  text : List Char
  deriving DecidableEq

namespace Fragment

def start (line : Nat) : Fragment := ⟨line,[]⟩

def extend (f : Fragment) (data : List Char) : Fragment :=
  if f.text.isEmpty then { f with text := data } else { f with text := f.text ++ ' ' :: data }

def isTerminated (f : Fragment) : Bool := (Text.tokens f.text).getLast? == some ['0']

-- The tokens that stand for literals: all but one terminating zero.
def body (f : Fragment) : List (List Char) :=
  let tokens := Text.tokens f.text
  if tokens.getLast? = some ['0'] then tokens.dropLast else tokens

def readToken (f : Fragment) (token : List Char) : Except ReadError Literal :=
  (Literal.read token).mapError (.malformedLiteral f.line f.text token ·)

def toClause (f : Fragment) : Except ReadError Clause := f.body.mapM f.readToken

end Fragment

structure Reader where
  declared : Option Declaration
  clauses : List Clause
  pending : Option Fragment
  inBlock : Bool
  deriving DecidableEq

structure Progress where
  reader : Reader
  ended : Bool
  deriving DecidableEq

namespace Reader

def start : Reader := ⟨none,[],none,false⟩

def declare (r : Reader) (declared : Declaration) : Reader :=
  match r.declared with
  | none => { r with declared := some declared }
  | some _ => r

def store (r : Reader) (f : Fragment) : Except ReadError Reader :=
  f.toClause.map fun clause => { r with clauses := r.clauses ++ [clause],pending := none }

def extend (r : Reader) (f : Fragment) (data : List Char) : Except ReadError Reader :=
  let f := f.extend data
  if f.isTerminated then r.store f else .ok { r with pending := some f }

-- Inside the block a lone zero terminates the pending clause. With none pending it would
-- make an empty clause, and is passed over.
def readData (r : Reader) (number : Nat) (data : List Char) : Except ReadError Reader :=
  if !r.inBlock && !opensBlock data then .ok r
  else
    let r := { r with inBlock := true }
    match r.pending with
    | some f => r.extend f data
    | none => if data = ['0'] then .ok r else r.extend (.start number) data

def readLine (r : Reader) (number : Nat) (text : List Char) : Except ReadError Progress :=
  match Line.read text with
  | .blank | .comment | .malformedProblem _ => .ok ⟨r,false⟩
  | .problem declared _ => .ok ⟨r.declare declared,false⟩
  | .endMarker => .ok ⟨r,true⟩
  | .data data => (r.readData number data).map (⟨·,false⟩)

def readLines (r : Reader) (number : Nat) : List (List Char) → Except ReadError Reader
  | [] => .ok r
  | text :: rest =>
    match r.readLine number text with
    | .error cause => .error cause
    | .ok ⟨after,true⟩ => .ok after
    | .ok ⟨after,false⟩ => after.readLines (number + 1) rest

-- A clause that nothing terminates is accepted as it stands.
def close (r : Reader) : Except ReadError Reader :=
  match r.pending with
  | none => .ok r
  | some f => r.store f

end Reader
end CnfSearch.Dimacs
