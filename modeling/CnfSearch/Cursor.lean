import CnfSearch.Assignment

namespace CnfSearch

-- It holds the number of the next assignment and the number that follows the last one.
structure Cursor where
  width : Nat
  index : Nat
  stop : Nat
  deriving DecidableEq

namespace Cursor

def start (width : Nat) : Except Fault Cursor :=
  if width ≤ Assignment.maxWidth then do
    let stop ← Word.shiftLeft 1 width
    return ⟨width,0,stop⟩
  else .error .tooWide

def remaining (c : Cursor) : Except Fault Nat := Word.sub c.stop c.index

def next (c : Cursor) : Except Fault (Option Assignment × Cursor) :=
  if c.index = c.stop then .ok (none,c)
  else do
    let item ← Assignment.ofIndex c.width c.index
    let index ← Word.add c.index 1
    return (some item,{ c with index })

-- Passes over `count` assignments, or over all that are left, without building them.
def advance (c : Cursor) (count : Nat) : Except Fault Cursor := do
  let left ← c.remaining
  let index ← Word.add c.index (min count left)
  return { c with index }

def nextAfter (c : Cursor) (count : Nat) : Except Fault (Option Assignment × Cursor) := do
  let reached ← c.advance count
  reached.next

def sizeBounds (c : Cursor) : Except Fault (Nat × Option Nat) := do
  let left ← c.remaining
  return (left,some left)

def take : Nat → Cursor → Except Fault (List Assignment × Cursor)
  | 0, c => .ok ([],c)
  | count + 1, c =>
    match c.next with
    | .error fault => .error fault
    | .ok (none,after) => .ok ([],after)
    | .ok (some item,after) => (take count after).map fun taken => (item :: taken.1,taken.2)

-- The index moves up within the word, so a run of such steps ends.
theorem next_index {c after : Cursor} {item : Assignment}
    (stepped : c.next = .ok (some item,after)) :
    after.index = c.index + 1 ∧ after.index < Word.bound := by
  unfold next at stepped
  split at stepped
  · cases stepped
  · cases built : Assignment.ofIndex c.width c.index with
    | error fault => simp [built,bind,Except.bind] at stepped
    | ok values =>
      cases added : Word.add c.index 1 with
      | error fault => simp [built,added,bind,Except.bind] at stepped
      | ok index =>
        simp [built,added,bind,Except.bind,pure,Except.pure] at stepped
        obtain ⟨_,rfl⟩ := stepped
        exact Word.add_lt_bound added

theorem next_decreases {c after : Cursor} {item : Assignment}
    (stepped : c.next = .ok (some item,after)) :
    Word.bound - after.index < Word.bound - c.index := by
  have moved := next_index stepped
  omega

def toList (c : Cursor) : Except Fault (List Assignment) :=
  match _ : c.next with
  | .error fault => .error fault
  | .ok (none,_) => .ok []
  | .ok (some item,after) => after.toList.map (item :: ·)
termination_by Word.bound - c.index
decreasing_by exact next_decreases ‹_›

end Cursor
end CnfSearch
