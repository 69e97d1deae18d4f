import CnfSearch.Text.Hexadecimal
import CnfSearch.Text.Token

namespace CnfSearch.Unicode

-- A set of code points: ranges in ascending order, with a gap between any two of them.
abbrev CodeRanges := List (Nat × Nat)

def lastCode : Nat := 0x10FFFF

namespace CodeRanges

def absorb (low high : Nat) : CodeRanges → CodeRanges
  | [] => [(low,high)]
  | (next,last) :: rest =>
    if next ≤ high + 1 then absorb low (max high last) rest
    else (low,high) :: (next,last) :: rest

def merge : CodeRanges → CodeRanges
  | [] => []
  | (low,high) :: rest => absorb low high (merge rest)

def ofList (ranges : List (Nat × Nat)) : CodeRanges :=
  merge (ranges.mergeSort fun a b => a.1 ≤ b.1)

def contains : CodeRanges → Nat → Bool
  | [], _ => false
  | (low,high) :: rest, n => if n < low then false else n ≤ high || contains rest n

def union (a b : CodeRanges) : CodeRanges := ofList (a ++ b)

def gaps (start : Nat) : CodeRanges → CodeRanges
  | [] => if start ≤ lastCode then [(start,lastCode)] else []
  | (low,high) :: rest =>
    if start < low then (start,low - 1) :: gaps (high + 1) rest else gaps (high + 1) rest

def complement (a : CodeRanges) : CodeRanges := gaps 0 a

def inter (a b : CodeRanges) : CodeRanges := (a.complement.union b.complement).complement

def diff (a b : CodeRanges) : CodeRanges := (a.complement.union b).complement

def symmDiff (a b : CodeRanges) : CodeRanges := (a.diff b).union (b.diff a)

def unions (sets : List CodeRanges) : CodeRanges := ofList sets.flatten

def surrogates : CodeRanges := [(0xD800,0xDFFF)]

-- Ranges may have numbers that are a given step apart.
def readRange (token : List Char) : List (Nat × Nat) :=
  let low := Text.hexValue (token.takeWhile (· ≠ '-'))
  match (token.dropWhile (· ≠ '-')).drop 1 with
  | [] => [(low,low)]
  | rest =>
    let high := Text.hexValue (rest.takeWhile (· ≠ ':'))
    match (rest.dropWhile (· ≠ ':')).drop 1 with
    | [] => [(low,high)]
    | digits =>
      let step := Text.hexValue digits
      (List.range ((high - low) / step + 1)).map fun k => (low + k * step,low + k * step)

def ofText (text : String) : CodeRanges :=
  ofList ((Text.tokens text.toList).flatMap readRange)

end CodeRanges
end CnfSearch.Unicode
