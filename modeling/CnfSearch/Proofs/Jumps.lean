import CnfSearch.Proofs.Faultless
import CnfSearch.Proofs.Listing

-- A jump over several assignments against as many single steps.
namespace CnfSearch.Cursor
open Assignment

-- Calls at the end are answered too, with none.
def calls : Nat → Cursor → Except Fault (List (Option Assignment) × Cursor)
  | 0, c => .ok ([],c)
  | count + 1, c =>
    match c.next with
    | .error fault => .error fault
    | .ok (item,after) => (calls count after).map fun answers => (item :: answers.1,answers.2)

def left (c : Cursor) : List Assignment := (List.range' c.index (c.stop - c.index)).map (numbered c.width)

section Steps
variable {c : Cursor}

@[simp] theorem left_length : c.left.length = c.stop - c.index := by simp [left]

theorem left_finished (finished : c.index = c.stop) : c.left = [] := by simp [left,finished]

theorem left_more (more : c.index < c.stop) : c.left = numbered c.width c.index :: c.advanced.left := by
  have count : c.stop - c.index = c.stop - (c.index + 1) + 1 := by omega
  simp [left,advanced,count,List.range'_succ]

theorem skipped_none : c.skipped 0 = c := by simp [skipped]

theorem skipped_finished (finished : c.index = c.stop) (count : Nat) : c.skipped count = c := by
  simp [skipped,Nat.sub_eq_zero_of_le (Nat.le_of_eq finished.symm)]

theorem skipped_more (more : c.index < c.stop) (count : Nat) : c.skipped (count + 1) = c.advanced.skipped count := by
  have moved : c.index + min (count + 1) (c.stop - c.index) =
      c.index + 1 + min count (c.stop - (c.index + 1)) := by omega
  simp only [skipped,advanced,moved]

theorem calls_finished (finished : c.index = c.stop) (count : Nat) :
    c.calls count = .ok (List.replicate count none,c) := by
  induction count with
  | zero => rfl
  | succ count ih => simp [calls,next_finished finished,ih,Except.map,List.replicate_succ]

theorem calls_more (placed : c.Placed) (more : c.index < c.stop) (count : Nat) :
    c.calls (count + 1) =
      (c.advanced.calls count).map fun answers => (some (numbered c.width c.index) :: answers.1,answers.2) := by
  simp [calls,next_more placed more]

-- Induction is on the calls, with the cursor free.
theorem calls_exact (placed : c.Placed) (count : Nat) : c.calls count =
    .ok ((c.left.take count).map some ++ List.replicate (count - c.left.length) none,c.skipped count) := by
  induction count generalizing c with
  | zero => simp [calls,skipped_none]
  | succ count ih =>
    cases Nat.lt_or_eq_of_le placed.within with
    | inl more =>
      rw [calls_more placed more,ih (placed.advanced more),left_more more,skipped_more more]
      simp [Except.map]
    | inr finished =>
      rw [calls_finished finished,left_finished finished,skipped_finished finished]
      simp

theorem next_skipped (placed : c.Placed) (count : Nat) :
    ∃ item after, (c.skipped count).next = .ok (item,after) ∧ (item = none ↔ c.left.length ≤ count) ∧
      (item = none → after.Placed ∧ after.index = after.stop ∧ after.stop = c.stop) := by
  have kept := placed.skipped count
  have moved : (c.skipped count).index = c.index + min count (c.stop - c.index) := rfl
  have stop : (c.skipped count).stop = c.stop := rfl
  cases Nat.lt_or_eq_of_le kept.within with
  | inl more =>
    refine ⟨_,_,next_more kept more,?_,by simp⟩
    rw [left_length]
    simp only [reduceCtorEq,false_iff,not_le]
    omega
  | inr finished =>
    refine ⟨_,_,next_finished finished,?_,fun _ => ⟨kept,finished,stop⟩⟩
    have within := placed.within
    rw [left_length]
    simp only [true_iff]
    omega

theorem nextAfter_finished (placed : c.Placed) (finished : c.index = c.stop) (count : Nat) :
    c.nextAfter count = .ok (none,c) := by
  rw [nextAfter_exact placed,skipped_finished finished,next_finished finished]

end Steps

theorem nextAfter_agrees {n : Nat} (narrow : n ≤ 63) : (∃ first, start n = .ok first) ∧
    ∀ c, Visited n c → c.index ≤ c.stop ∧ c.stop = 2 ^ n ∧
      ∃ items, c.toList = .ok items ∧ c.sizeBounds = .ok (items.length,some items.length) ∧
        (∀ count, ∃ after, c.calls count =
          .ok ((items.take count).map some ++ List.replicate (count - items.length) none,after)) ∧
        ∀ k, ∃ passed before item after,
          c.calls k = .ok (passed,before) ∧ before.next = .ok (item,after) ∧ c.nextAfter k = .ok (item,after) ∧
          (item = none ↔ items.length ≤ k) ∧
          (item = none → after.index = 2 ^ n ∧
            ∀ j, after.calls j = .ok (List.replicate j none,after) ∧ after.nextAfter j = .ok (none,after)) := by
  refine ⟨⟨_,start_exact narrow⟩,?_⟩
  intro c visited
  obtain ⟨placed,width⟩ := visited_placed visited
  have stop : c.stop = 2 ^ n := by rw [placed.stop,width]
  refine ⟨placed.within,stop,c.left,toList_exact placed,?_,fun count => ⟨_,calls_exact placed count⟩,?_⟩
  · rw [sizeBounds_exact placed,left_length]
  · intro k
    obtain ⟨item,after,stepped,short,ended⟩ := next_skipped placed k
    refine ⟨_,_,item,after,calls_exact placed k,stepped,(nextAfter_exact placed k).trans stepped,short,?_⟩
    intro none
    obtain ⟨kept,finished,same⟩ := ended none
    refine ⟨by rw [finished,same,stop],?_⟩
    intro j
    exact ⟨calls_finished finished j,nextAfter_finished kept finished j⟩

-- The longest jump that a word can ask for goes past the end of the widest list.
theorem nextAfter_agrees_widest : 63 ≤ 63 ∧ Visited 63 ⟨63,9223372036854775806,9223372036854775808⟩ ∧
    ∃ items, toList ⟨63,9223372036854775806,9223372036854775808⟩ = .ok items ∧ items.length = 2 ∧
      ∃ after, nextAfter ⟨63,9223372036854775806,9223372036854775808⟩ 18446744073709551615 = .ok (none,after) ∧
        after.index = 9223372036854775808 ∧ calls 3 after = .ok ([none,none,none],after) := by
  have narrow : 63 ≤ 63 := Nat.le_refl 63
  obtain ⟨_,visits⟩ := nextAfter_agrees narrow
  have begun : start 63 = .ok ⟨63,0,9223372036854775808⟩ := by decide +kernel
  have jumped : nextAfter ⟨63,0,9223372036854775808⟩ 9223372036854775805 =
      .ok (some (true :: false :: List.replicate 61 true),⟨63,9223372036854775806,9223372036854775808⟩) := by
    decide +kernel
  have visited : Visited 63 ⟨63,9223372036854775806,9223372036854775808⟩ := .nextAfter (.start begun) jumped
  obtain ⟨_,_,items,ran,size,_,jumps⟩ := visits _ visited
  have bounds : sizeBounds ⟨63,9223372036854775806,9223372036854775808⟩ = .ok (2,some 2) := by decide +kernel
  have two : items.length = 2 := by
    rw [bounds,Except.ok.injEq,Prod.mk.injEq] at size
    exact size.1.symm
  obtain ⟨_,_,item,after,_,_,far,short,ended⟩ := jumps 18446744073709551615
  have none : item = none := short.mpr (by omega)
  obtain ⟨index,forever⟩ := ended none
  rw [none] at far
  exact ⟨narrow,visited,items,ran,two,after,far,index,(forever 3).1⟩

end CnfSearch.Cursor
