import CnfSearch.Text.Token
import CnfSearch.Text.Numeral

namespace CnfSearch.Dimacs

structure Declaration where
  numVariables : Nat
  numClauses : Nat
  deriving DecidableEq

-- Data keeps the line's text without the blanks around it.
inductive Line where
  | blank
  | comment
  | problem (declared : Declaration) (trailing : Nat)
  | malformedProblem (text : List Char)
  | endMarker
  | data (text : List Char)
  deriving DecidableEq

-- The fields after the leading p: the format, two counts, and any number of tokens more.
def Declaration.read? : List (List Char) → Option (Declaration × Nat)
  | format :: first :: second :: trailing =>
    if format = ['c','n','f'] then
      match Text.Numeral.natural first,Text.Numeral.natural second with
      | .ok numVariables,.ok numClauses => some (⟨numVariables,numClauses⟩,trailing.length)
      | _,_ => none
    else none
  | _ => none

def Line.read (text : List Char) : Line :=
  let trimmed := Text.trim text
  match Text.tokens trimmed with
  | [] => .blank
  | ['%'] :: _ => .endMarker
  | ['p'] :: fields =>
    match Declaration.read? fields with
    | some (declared,trailing) => .problem declared trailing
    | none => .malformedProblem trimmed
  | ('c' :: _) :: _ => .comment
  | _ => .data trimmed

-- Data before the first line that opens with a nonzero integer is not part of any clause.
def opensBlock (text : List Char) : Bool :=
  match (Text.tokens text).head?.bind Text.Numeral.integer? with
  | some value => value != 0
  | none => false

end CnfSearch.Dimacs
