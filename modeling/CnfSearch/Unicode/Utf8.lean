import CnfSearch.Unicode.CodeRanges

namespace CnfSearch.Unicode.Utf8

def encode (n : Nat) : List Nat :=
  if n ≤ 0x7F then [n]
  else if n ≤ 0x7FF then [0xC0 + n / 64,0x80 + n % 64]
  else if n ≤ 0xFFFF then [0xE0 + n / 4096,0x80 + n / 64 % 64,0x80 + n % 64]
  else [0xF0 + n / 262144,0x80 + n / 4096 % 64,0x80 + n / 64 % 64,0x80 + n % 64]

def lengthCut? (low high : Nat) : Option Nat :=
  [0x7F,0x7FF,0xFFFF].find? fun last => low ≤ last && last < high

-- Codes that begin alike may not go through all values of the bytes after that.
def blockCut? (low high : Nat) : Option Nat :=
  if high ≤ 0x7F then none
  else
    [64,4096,262144].findSome? fun size =>
      if low / size = high / size then none
      else if low % size ≠ 0 then some (low - low % size + size - 1)
      else if high % size ≠ size - 1 then some (high - high % size - 1)
      else none

def cut? (low high : Nat) : Option Nat := (lengthCut? low high).or (blockCut? low high)

def pieces : Nat → Nat × Nat → List (Nat × Nat)
  | 0, range => [range]
  | fuel + 1, (low,high) =>
    match cut? low high with
    | none => [(low,high)]
    | some last => pieces fuel (low,last) ++ pieces fuel (last + 1,high)

-- Surrogates have to be left out of the set.
def sequences (ranges : CodeRanges) : List (List (Nat × Nat)) :=
  (ranges.flatMap (pieces 16)).map fun (low,high) => List.zip (encode low) (encode high)

end CnfSearch.Unicode.Utf8
