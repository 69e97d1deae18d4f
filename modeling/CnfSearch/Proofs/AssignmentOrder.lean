import CnfSearch.Assignment
import Mathlib

namespace CnfSearch.Assignment

-- The assignment with a given number, whatever the width.
def numbered (width index : Nat) : Assignment := (List.range width).map index.testBit

theorem ofIndex_numbered (narrow : width ≤ maxWidth) :
    ofIndex width index = .ok (numbered width index) := ofIndex_exact narrow

@[simp] theorem numbered_length : (numbered width index).length = width := by
  simp [numbered]

theorem testBit_toIndex (a : Assignment) (i : Nat) : a.toIndex.testBit i = a[i]?.getD false := by
  induction a generalizing i with
  | nil => simp [toIndex]
  | cons value rest ih =>
    cases i with
    | zero =>
      cases value <;> simp [toIndex,Nat.testBit_zero,Nat.add_mul_mod_self_left]
    | succ i =>
      have half : (value.toNat + 2 * toIndex rest) / 2 = toIndex rest := by
        have bit := Bool.toNat_le value
        omega
      simp only [toIndex,Nat.testBit_succ,half,ih,List.getElem?_cons_succ]

theorem toIndex_bound (a : Assignment) : a.toIndex < 2 ^ a.length := by
  induction a with
  | nil => simp [toIndex]
  | cons value rest ih =>
    have bit : value.toNat ≤ 1 := Bool.toNat_le value
    simp only [toIndex,List.length_cons,Nat.pow_succ]
    omega

theorem numbered_toIndex (a : Assignment) : numbered a.length a.toIndex = a := by
  apply List.ext_getElem
  · simp
  · intro i _ within
    simp [numbered,testBit_toIndex,within]

theorem toIndex_numbered (within : index < 2 ^ width) : (numbered width index).toIndex = index := by
  apply Nat.eq_of_testBit_eq
  intro i
  rw [testBit_toIndex]
  by_cases inside : i < width
  · simp [numbered,inside]
  · have high : index.testBit i = false :=
      Nat.testBit_lt_two_pow (Nat.lt_of_lt_of_le within (Nat.pow_le_pow_right (by omega) (by omega)))
    simp [numbered,inside,high]

theorem numbered_mod (width index : Nat) : numbered width (index % 2 ^ width) = numbered width index := by
  apply List.map_congr_left
  intro i member
  simp [Nat.testBit_mod_two_pow,List.mem_range.mp member]

theorem numbered_exact : numbered width j = numbered width k ↔ j % 2 ^ width = k % 2 ^ width := by
  have positive : 0 < 2 ^ width := Nat.two_pow_pos width
  rw [← numbered_mod width j,← numbered_mod width k]
  constructor
  · intro same
    rw [← toIndex_numbered (Nat.mod_lt j positive),same,toIndex_numbered (Nat.mod_lt k positive)]
  · intro same
    rw [same]

theorem toIndex_sum (a : Assignment) :
    toIndex a = ∑ i ∈ Finset.range a.length with a[i]? = some true, 2 ^ i := by
  rw [Finset.sum_filter]
  induction a with
  | nil => rfl
  | cons value rest ih =>
    have tail : ∑ i ∈ Finset.range rest.length, (if rest[i]? = some true then 2 ^ (i + 1) else 0) =
        2 * toIndex rest := by
      rw [ih,Finset.mul_sum]
      apply Finset.sum_congr rfl
      intro i _
      split <;> simp [Nat.pow_succ,Nat.mul_comm]
    rw [List.length_cons,Finset.sum_range_succ',toIndex]
    simp only [List.getElem?_cons_succ,List.getElem?_cons_zero,tail]
    cases value <;> simp [Nat.add_comm]

theorem toIndex_injective (length : a.length = b.length) (same : toIndex a = toIndex b) : a = b := by
  rw [← numbered_toIndex a,length,same,numbered_toIndex]

-- Where the two differ last, the first is false and the second is true.
def Precedes (a b : Assignment) : Prop :=
  ∃ i : Nat, a[i]? = some false ∧ b[i]? = some true ∧ ∀ j, i < j → a[j]? = b[j]?

theorem toIndex_lt_of_precedes (precedes : Precedes a b) : toIndex a < toIndex b := by
  obtain ⟨i,low,high,above⟩ := precedes
  apply Nat.lt_of_testBit i
  · simp [testBit_toIndex,low]
  · simp [testBit_toIndex,high]
  · intro j later
    rw [testBit_toIndex,testBit_toIndex,above j later]

theorem precedes_of_toIndex_lt (length : a.length = b.length) (less : toIndex a < toIndex b) :
    Precedes a b := by
  induction a generalizing b with
  | nil =>
    cases List.length_eq_zero_iff.mp length.symm
    exact absurd less (Nat.lt_irrefl _)
  | cons x a ih =>
    cases b with
    | nil => cases length
    | cons y b =>
      have length : a.length = b.length := Nat.succ.inj length
      simp only [toIndex] at less
      rcases Nat.lt_trichotomy (toIndex a) (toIndex b) with below | same | above
      · obtain ⟨i,low,high,above⟩ := ih length below
        refine ⟨i + 1,low,high,?_⟩
        intro j later
        cases j with
        | zero => omega
        | succ j => exact above j (by omega)
      · have rest := toIndex_injective length same
        subst rest
        cases x <;> cases y <;> simp at less
        refine ⟨0,rfl,rfl,?_⟩
        intro j later
        cases j with
        | zero => omega
        | succ j => rfl
      · have bitX := Bool.toNat_le x
        have bitY := Bool.toNat_le y
        omega

theorem precedes_exact (length : a.length = b.length) : Precedes a b ↔ toIndex a < toIndex b :=
  ⟨toIndex_lt_of_precedes,precedes_of_toIndex_lt length⟩

end CnfSearch.Assignment
