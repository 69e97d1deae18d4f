namespace CnfSearch

def Variable.maxId : Nat := 4294967295

-- A propositional variable is known by its number, which fits in 32 bits and is not zero.
structure Variable where
  id : Nat
  positive : 0 < id
  inRange : id ≤ Variable.maxId
  deriving DecidableEq

namespace Variable

def ofNat? (n : Nat) : Option Variable :=
  if h : 0 < n ∧ n ≤ maxId then some ⟨n,h.1,h.2⟩ else none

theorem eq_of_id {x y : Variable} (same : x.id = y.id) : x = y := by
  cases x; cases y; cases same; rfl

theorem ofNat?_id (x : Variable) : ofNat? x.id = some x := by
  simp [ofNat?,x.positive,x.inRange]

theorem ofNat?_exact {n : Nat} {x : Variable} : ofNat? n = some x ↔ x.id = n := by
  constructor
  · intro found
    unfold ofNat? at found
    split at found
    · cases found; rfl
    · cases found
  · intro same
    rw [← same,ofNat?_id]

theorem ofNat?_none {n : Nat} : ofNat? n = none ↔ n = 0 ∨ maxId < n := by
  simp [ofNat?]
  omega

end Variable

structure Literal where
  var : Variable
  positive : Bool
  deriving DecidableEq

namespace Literal

def neg (l : Literal) : Literal := ⟨l.var,!l.positive⟩

@[simp] theorem neg_neg (l : Literal) : l.neg.neg = l := by simp [neg]

def ofInt? (n : Int) : Option Literal :=
  (Variable.ofNat? n.natAbs).map (⟨·,decide (0 < n)⟩)

def toInt (l : Literal) : Int :=
  if l.positive then l.var.id else -(l.var.id : Int)

theorem ofInt?_toInt (l : Literal) : ofInt? l.toInt = some l := by
  have nonzero := l.var.positive
  obtain ⟨x,sign⟩ := l
  cases sign with
  | true => simpa [ofInt?,toInt,Variable.ofNat?_id] using nonzero
  | false => simp [ofInt?,toInt,Variable.ofNat?_id]

end Literal

-- A clause is the disjunction of its literals; the empty clause is false.
abbrev Clause := List Literal

end CnfSearch
