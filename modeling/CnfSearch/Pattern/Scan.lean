import CnfSearch.Pattern.Node
import CnfSearch.Text.Blank

namespace CnfSearch.Pattern

structure Scan where
  rest : List Char
  place : Place
  extended : Bool
  names : List (List Char × Stretch)

namespace Scan

def start (pattern : List Char) : Scan := ⟨pattern,⟨1,1⟩,false,[]⟩

def advance (s : Scan) : Scan :=
  match s.rest with
  | [] => s
  | c :: rest => { s with rest, place := s.place.after c }

def advanceBy : Nat → Scan → Scan
  | 0, s => s
  | n + 1, s => advanceBy n s.advance

-- A comment runs from a number sign to the end of its line.
def blankLength (inComment : Bool) : List Char → Nat
  | [] => 0
  | c :: rest =>
    if inComment then 1 + blankLength (c != '\n') rest
    else if Text.isBlank c then 1 + blankLength false rest
    else if c = '#' then 1 + blankLength true rest
    else 0

def skipBlanks (s : Scan) : Scan :=
  if s.extended then s.advanceBy (blankLength false s.rest) else s

def second? (s : Scan) : Option Char :=
  let rest := s.rest.drop 1
  if s.extended then
    match rest.dropWhile Text.isBlank with
    | '#' :: comment => (comment.dropWhile Text.isBlank).head?
    | rest => rest.head?
  else rest.head?

end Scan

abbrev Reading := StateT Scan (Except Refusal)

namespace Reading

def refuse (flaw : Flaw) (first last : Place) : Reading α := throw ⟨flaw,⟨first,last⟩,none⟩

def here : Reading Place := return (← get).place

def next? : Reading (Option Char) := return (← get).rest.head?

def advance : Reading Unit := modify Scan.advance

def skipBlanks : Reading Unit := modify Scan.skipBlanks

def atEnd : Reading Bool := return (← get).rest.isEmpty

def step : Reading Bool := do
  modify fun s => s.advance.skipBlanks
  return !(← atEnd)

def accept (text : String) : Reading Bool := do
  let s ← get
  if text.toList.isPrefixOf s.rest then
    set (s.advanceBy text.length)
    return true
  else return false

end Reading
end CnfSearch.Pattern
