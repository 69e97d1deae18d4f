import CnfSearch.Explanation
import CnfSearch.Literal
import CnfSearch.Text.Numeral

namespace CnfSearch

namespace Text.NumeralError

def explain : NumeralError → Explanation
  | .empty => .plain "cannot parse integer from empty string"
  | .invalidDigit => .plain "invalid digit found in string"
  | .tooLarge => .plain "number too large to fit in target type"

end Text.NumeralError

namespace Dimacs

inductive VariableError where
  | notANumeral (cause : Text.NumeralError)
  | outOfRange (value : Nat)
  deriving DecidableEq

def VariableError.explain : VariableError → Explanation
  | .notANumeral cause => cause.explain.under "Failed to parse Variable ID"
  | .outOfRange value =>
    .plain s!"Variable ID {value} is out of range (must be within 1 to {Variable.maxId})"

end Dimacs

open Dimacs

def Variable.read (token : List Char) : Except VariableError Variable :=
  match Text.Numeral.natural token with
  | .error cause => .error (.notANumeral cause)
  | .ok value =>
    match ofNat? value with
    | none => .error (.outOfRange value)
    | some x => .ok x

-- One minus sign denies the variable that the rest of the token names. What follows the
-- sign is read as if it stood alone, with a plus sign of its own if it has one.
def Literal.read : List Char → Except VariableError Literal
  | '-' :: rest => (Variable.read rest).map (⟨·,false⟩)
  | token => (Variable.read token).map (⟨·,true⟩)

def Literal.token (l : Literal) : List Char :=
  if l.positive then Text.Numeral.ofNat l.var.id else '-' :: Text.Numeral.ofNat l.var.id

end CnfSearch
