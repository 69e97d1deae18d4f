import CnfSearch.Cursor
import CnfSearch.Proofs.AssignmentOrder

namespace CnfSearch.Cursor
open Assignment

-- What start establishes and every step keeps.
structure Placed (c : Cursor) : Prop where
  narrow : c.width ≤ maxWidth
  stop : c.stop = 2 ^ c.width
  within : c.index ≤ c.stop

theorem Placed.stop_bound {c : Cursor} (placed : c.Placed) : c.stop < Word.bound := by
  rw [placed.stop]
  have narrow := placed.narrow
  unfold maxWidth at narrow
  exact Nat.pow_lt_pow_right (by decide) (by omega : c.width < 64)

theorem start_exact {width : Nat} (narrow : width ≤ maxWidth) : start width = .ok ⟨width,0,2 ^ width⟩ := by
  have inWord : width < Word.size := Nat.lt_of_le_of_lt narrow (by decide)
  have fits : 2 ^ width < Word.bound := Nat.pow_lt_pow_right (by decide) inWord
  simp [start,narrow,Word.shiftLeft,inWord,Nat.shiftLeft_eq,Nat.mod_eq_of_lt fits,
    bind,Except.bind,pure,Except.pure]

theorem start_placed {width : Nat} (narrow : width ≤ maxWidth) : Placed ⟨width,0,2 ^ width⟩ :=
  ⟨narrow,rfl,Nat.zero_le _⟩

theorem remaining_exact {c : Cursor} (placed : c.Placed) : c.remaining = .ok (c.stop - c.index) := by
  simp [remaining,Word.sub,placed.within]

theorem sizeBounds_exact {c : Cursor} (placed : c.Placed) :
    c.sizeBounds = .ok (c.stop - c.index,some (c.stop - c.index)) := by
  simp [sizeBounds,remaining_exact placed,bind,Except.bind,pure,Except.pure]

def advanced (c : Cursor) : Cursor := { c with index := c.index + 1 }

theorem next_more {c : Cursor} (placed : c.Placed) (more : c.index < c.stop) :
    c.next = .ok (some (numbered c.width c.index),c.advanced) := by
  have unfinished : c.index ≠ c.stop := Nat.ne_of_lt more
  have fits : c.index + 1 < Word.bound := Nat.lt_of_le_of_lt more placed.stop_bound
  simp [next,unfinished,ofIndex_numbered placed.narrow,Word.add,fits,advanced,
    bind,Except.bind,pure,Except.pure]

theorem next_finished {c : Cursor} (finished : c.index = c.stop) : c.next = .ok (none,c) := by
  simp [next,finished]

theorem Placed.advanced {c : Cursor} (placed : c.Placed) (more : c.index < c.stop) : c.advanced.Placed :=
  ⟨placed.narrow,placed.stop,more⟩

theorem start_wide {width : Nat} (wide : maxWidth < width) : start width = .error .tooWide :=
  if_neg (Nat.not_le.mpr wide)

def skipped (c : Cursor) (count : Nat) : Cursor := { c with index := c.index + min count (c.stop - c.index) }

theorem Placed.skipped {c : Cursor} (placed : c.Placed) (count : Nat) : (c.skipped count).Placed := by
  refine ⟨placed.narrow,placed.stop,?_⟩
  have within := placed.within
  simp only [Cursor.skipped]
  omega

theorem nextAfter_exact {c : Cursor} (placed : c.Placed) (count : Nat) :
    c.nextAfter count = (c.skipped count).next := by
  have fits : c.index + min count (c.stop - c.index) < Word.bound :=
    Nat.lt_of_le_of_lt (placed.skipped count).within placed.stop_bound
  simp [nextAfter,advance,remaining_exact placed,Word.add,fits,skipped,bind,Except.bind,pure,Except.pure]

theorem next_total {c : Cursor} (placed : c.Placed) : ∃ item after, c.next = .ok (item,after) ∧
    after.Placed ∧ after.width = c.width ∧ ∀ values ∈ item, values.length = c.width := by
  rcases Nat.lt_or_eq_of_le placed.within with more | finished
  · refine ⟨_,_,next_more placed more,placed.advanced more,rfl,?_⟩
    intro values given
    rw [← Option.some.inj given,numbered_length]
  · exact ⟨_,_,next_finished finished,placed,rfl,by simp⟩

end CnfSearch.Cursor
