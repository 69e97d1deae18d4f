import CnfSearch.Text.Blank

namespace CnfSearch.Text

def extendFirst (c : Char) : List (List Char) → List (List Char)
  | [] => [[c]]
  | piece :: rest => (c :: piece) :: rest

def startsInToken : List Char → Bool
  | [] => false
  | c :: _ => !isBlank c

def tokens : List Char → List (List Char)
  | [] => []
  | c :: rest =>
    if isBlank c then tokens rest
    else if startsInToken rest then extendFirst c (tokens rest)
    else [c] :: tokens rest

-- One carriage return just before the line feed belongs to the line's end. At the end of the
-- text it is part of the line.
def lines : List Char → List (List Char)
  | [] => []
  | '\n' :: rest => [] :: lines rest
  | '\r' :: '\n' :: rest => [] :: lines rest
  | c :: rest => extendFirst c (lines rest)

end CnfSearch.Text
