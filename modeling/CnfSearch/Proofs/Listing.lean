import CnfSearch.Proofs.Enumeration

namespace CnfSearch
open Assignment

namespace Cursor

theorem toList_finished {c : Cursor} (finished : c.index = c.stop) : c.toList = .ok [] := by
  have stepped := next_finished finished
  rw [toList]
  split <;> simp_all

theorem toList_more {c : Cursor} (placed : c.Placed) (more : c.index < c.stop) :
    c.toList = c.advanced.toList.map (numbered c.width c.index :: ·) := by
  have stepped := next_more placed more
  rw [toList]
  split <;> simp_all

-- Induction is on how many numbers are left.
theorem toList_exact {c : Cursor} (placed : c.Placed) :
    c.toList = .ok ((List.range' c.index (c.stop - c.index)).map (numbered c.width)) := by
  generalize left : c.stop - c.index = count
  induction count generalizing c with
  | zero => exact toList_finished (Nat.le_antisymm placed.within (Nat.sub_eq_zero_iff_le.mp left))
  | succ count ih =>
    have more : c.index < c.stop := by omega
    have left : c.advanced.stop - c.advanced.index = count := by
      simp only [advanced]
      omega
    rw [toList_more placed more,ih (placed.advanced more) left]
    rfl

end Cursor

namespace Assignment

def listed (width : Nat) : List Assignment := (List.range (2 ^ width)).map (numbered width)

theorem listed_length (width : Nat) : (listed width).length = 2 ^ width := by simp [listed]

theorem listed_width (member : a ∈ listed width) : a.length = width := by
  obtain ⟨index,_,rfl⟩ := List.mem_map.mp member
  exact numbered_length

theorem listed_at (within : k < 2 ^ width) : (listed width)[k]? = some (numbered width k) := by
  simp [listed,within]

theorem listed_exact {a : Assignment} : (listed a.length)[k]? = some a ↔ k = a.toIndex := by
  constructor
  · intro found
    obtain ⟨within,_⟩ := List.getElem?_eq_some_iff.mp found
    rw [listed_length] at within
    rw [listed_at within] at found
    calc k = (numbered a.length k).toIndex := (toIndex_numbered within).symm
      _ = a.toIndex := congrArg toIndex (Option.some.inj found)
  · intro place
    rw [place,listed_at (toIndex_bound a),numbered_toIndex]

theorem listed_precedes {a b : Assignment} {j k : Nat} (before : j < k) (first : (listed width)[j]? = some a)
    (second : (listed width)[k]? = some b) : Precedes a b := by
  have width_a := listed_width (List.mem_of_getElem? first)
  have width_b := listed_width (List.mem_of_getElem? second)
  apply (precedes_exact (width_a.trans width_b.symm)).mpr
  rw [← width_a] at first
  rw [← width_b] at second
  rw [← listed_exact.mp first,← listed_exact.mp second]
  exact before

theorem enumerates {n : Nat} (narrow : n ≤ 63) :
    ∃ c items, Cursor.start n = .ok c ∧ c.toList = .ok items ∧ items.length = 2 ^ n ∧
      (∀ a ∈ items, a.length = n) ∧
      (∀ k < 2 ^ n, ∃ a, ofIndex n k = .ok a ∧ items[k]? = some a) ∧
      (∀ a : Assignment, a.length = n → ∀ k,
        items[k]? = some a ↔ k = ∑ i ∈ Finset.range n with a[i]? = some true, 2 ^ i) ∧
      (∀ (j k : Nat) (a b : Assignment), j < k → items[j]? = some a → items[k]? = some b → a ≠ b ∧ Precedes a b) ∧
      ∀ j k, ofIndex n j = ofIndex n k ↔ j % 2 ^ n = k % 2 ^ n := by
  have whole : Cursor.toList ⟨n,0,2 ^ n⟩ = .ok (listed n) := by
    rw [Cursor.toList_exact (Cursor.start_placed narrow)]
    simp [listed,List.range_eq_range']
  refine ⟨_,listed n,Cursor.start_exact narrow,whole,listed_length n,fun _ => listed_width,?_,?_,?_,?_⟩
  · intro k within
    exact ⟨_,ofIndex_numbered narrow,listed_at within⟩
  · intro a width k
    subst width
    rw [← toIndex_sum]
    exact listed_exact
  · intro j k a b before first second
    have precedes := listed_precedes before first second
    refine ⟨?_,precedes⟩
    intro same
    subst same
    exact Nat.lt_irrefl _ (toIndex_lt_of_precedes precedes)
  · intro j k
    rw [ofIndex_numbered narrow,ofIndex_numbered narrow,Except.ok.injEq]
    exact numbered_exact

-- The widest list is too long to be written down.
theorem enumerates_widest : 63 ≤ 63 ∧
    ∃ c items, Cursor.start 63 = .ok c ∧ c.toList = .ok items ∧ items.length = 9223372036854775808 ∧
      items[9223372036854775807]? = some (List.replicate 63 true) ∧
      ofIndex 63 18446744073709551615 = ofIndex 63 9223372036854775807 := by
  have narrow : 63 ≤ 63 := Nat.le_refl 63
  obtain ⟨c,items,started,ran,count,_,each,_,_,modulo⟩ := enumerates narrow
  obtain ⟨a,named,found⟩ := each 9223372036854775807 (by decide)
  have last : ofIndex 63 9223372036854775807 = .ok (List.replicate 63 true) := by decide +kernel
  rw [last] at named
  cases named
  exact ⟨narrow,c,items,started,ran,count,found,(modulo _ _).mpr (by decide)⟩

end Assignment
end CnfSearch
