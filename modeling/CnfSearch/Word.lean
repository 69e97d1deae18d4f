namespace CnfSearch

-- A caller that respects the limits never meets a fault.
inductive Fault where
  | tooWide
  | misaligned
  | overflow
  deriving DecidableEq

-- An operation whose result is no word is a fault and never a wrapped number.
namespace Word

def size : Nat := 64
def bound : Nat := 1 <<< size

def add (a b : Nat) : Except Fault Nat :=
  if a + b < bound then .ok (a + b) else .error .overflow

def sub (a b : Nat) : Except Fault Nat :=
  if b ≤ a then .ok (a - b) else .error .overflow

-- Bits moved past the top are lost without a fault.
def shiftLeft (a amount : Nat) : Except Fault Nat :=
  if amount < size then .ok ((a <<< amount) % bound) else .error .overflow

def shiftRight (a amount : Nat) : Except Fault Nat :=
  if amount < size then .ok (a >>> amount) else .error .overflow

def isOdd (a : Nat) : Bool := a % 2 == 1

theorem add_lt_bound (added : add a b = .ok c) : c = a + b ∧ c < bound := by
  unfold add at added
  split at added
  · rename_i fits
    cases added
    exact ⟨rfl,fits⟩
  · cases added

end Word
end CnfSearch
