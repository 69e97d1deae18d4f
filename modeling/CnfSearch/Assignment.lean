import CnfSearch.Word

namespace CnfSearch

-- Which variable stands at a position is said by the support that it is read with.
abbrev Assignment := List Bool

namespace Assignment

-- The most positions whose assignments can be counted in one word.
def maxWidth : Nat := 63

def bitAt (index position : Nat) : Except Fault Bool := do
  let shifted ← Word.shiftRight index position
  return Word.isOdd shifted

-- The value at position i is bit i of the number.
def ofIndex (width index : Nat) : Except Fault Assignment :=
  if width ≤ maxWidth then (List.range width).mapM (bitAt index) else .error .tooWide

theorem bitAt_exact {index position : Nat} (inWord : position < Word.size) :
    bitAt index position = .ok (index.testBit position) := by
  simp [bitAt,Word.shiftRight,inWord,Word.isOdd,Nat.shiftRight_eq_div_pow,
    Nat.testBit_eq_decide_div_mod_eq,bind,Except.bind,pure,Except.pure]
  rfl

theorem mapM_bitAt (index : Nat) (positions : List Nat) (inWord : ∀ i ∈ positions, i < Word.size) :
    positions.mapM (bitAt index) = .ok (positions.map index.testBit) := by
  induction positions with
  | nil => rfl
  | cons i rest ih =>
    rw [List.mapM_cons,bitAt_exact (inWord i List.mem_cons_self),
      ih fun j member => inWord j (List.mem_cons_of_mem _ member)]
    rfl

theorem ofIndex_exact {width index : Nat} (narrow : width ≤ maxWidth) :
    ofIndex width index = .ok ((List.range width).map index.testBit) := by
  unfold ofIndex
  rw [if_pos narrow,mapM_bitAt]
  intro i member
  have below := List.mem_range.mp member
  unfold maxWidth at narrow
  unfold Word.size
  omega

def toIndex : Assignment → Nat
  | [] => 0
  | value :: rest => value.toNat + 2 * toIndex rest

end Assignment
end CnfSearch
