import CnfSearch.Proofs.NamedValues

-- The variables of a formula as a sorted list that is looked up by halving.
namespace CnfSearch

namespace Support

section Sorted

def byId (x y : Variable) : Bool := x.id ≤ y.id

theorem byId_exact : byId x y = true ↔ x.id ≤ y.id := decide_eq_true_iff

theorem sorted_byId (xs : List Variable) : (xs.mergeSort byId).Pairwise (·.id ≤ ·.id) := by
  have trans : ∀ x y z, byId x y = true → byId y z = true → byId x z = true := by
    intro x y z first second
    exact byId_exact.mpr (Nat.le_trans (byId_exact.mp first) (byId_exact.mp second))
  have total : ∀ x y, (byId x y || byId y x) = true := by
    intro x y
    rw [Bool.or_eq_true,byId_exact,byId_exact]
    exact Nat.le_total x.id y.id
  exact (List.pairwise_mergeSort trans total xs).imp byId_exact.mp

-- Equal variables stand side by side once the list is sorted.
theorem destutter_sorted (xs : List Variable) :
    (xs.mergeSort byId).destutter (· ≠ ·) = (xs.mergeSort byId).dedup := by
  have antisymm : Std.Antisymm fun x y : Variable => x.id ≤ y.id :=
    ⟨fun _ _ below above => Variable.eq_of_id (Nat.le_antisymm below above)⟩
  exact (sorted_byId xs).destutter_eq_dedup

def ofSorting (xs : List Variable) : Support where
  list := (xs.mergeSort byId).destutter (· ≠ ·)
  ascending := by
    rw [destutter_sorted]
    have sorted := (sorted_byId xs).sublist (List.dedup_sublist _)
    apply (sorted.and (List.nodup_dedup _)).imp
    rintro x y ⟨below,other⟩
    exact Nat.lt_of_le_of_ne below (mt Variable.eq_of_id other)

theorem ofList_sorting (xs : List Variable) : ofList xs = ofSorting xs := by
  apply eq_of_mem
  intro x
  rw [mem_ofList,mem_list]
  change x ∈ xs ↔ x ∈ (xs.mergeSort byId).destutter (· ≠ ·)
  rw [destutter_sorted,List.mem_dedup,List.mem_mergeSort]

end Sorted

variable {s : Support} {x y : Variable} {i j low high : Nat}

def bisect (s : Support) (x : Variable) (low high : Nat) : Option Nat :=
  if low < high then
    match s.list[(low + high) / 2]? with
    | none => none
    | some y =>
      if y = x then some ((low + high) / 2)
      else if y.id < x.id then bisect s x ((low + high) / 2 + 1) high
      else bisect s x low ((low + high) / 2)
  else none
termination_by high - low

theorem bisect_exact (within : high ≤ s.size) :
    s.bisect x low high = some i ↔ (low ≤ i ∧ i < high) ∧ s.list[i]? = some x := by
  fun_induction bisect s x low high with
  | case1 low high between missing =>
    have inside : (low + high) / 2 < s.list.length := Nat.lt_of_lt_of_le (by omega) within
    rw [List.getElem?_eq_getElem inside] at missing
    cases missing
  | case2 low high between found =>
    constructor
    · rintro ⟨⟩
      exact ⟨by omega,found⟩
    · rintro ⟨_,place⟩
      rw [← position?_exact] at place found
      exact found.symm.trans place
  | case3 low high between y middle other less ih =>
    rw [ih within]
    apply and_congr_left
    intro place
    have after := (position_lt_exact middle place).mpr less
    omega
  | case4 low high between y middle other notLess ih =>
    rw [ih (by omega)]
    apply and_congr_left
    intro place
    have greater : x.id < y.id := Nat.lt_of_le_of_ne (Nat.le_of_not_lt notLess) fun same => other (Variable.eq_of_id same.symm)
    have before := (position_lt_exact place middle).mpr greater
    omega
  | case5 low high empty =>
    refine iff_of_false (by simp) ?_
    rintro ⟨inside,_⟩
    omega

theorem position?_bisect (s : Support) (x : Variable) : s.position? x = s.bisect x 0 s.size := by
  apply Option.ext
  intro i
  rw [position?_exact,bisect_exact (Nat.le_refl _),and_iff_right_of_imp]
  intro place
  exact ⟨Nat.zero_le i,(List.getElem?_eq_some_iff.mp place).1⟩

theorem position?_none : s.position? x = none ↔ ¬ x ∈ s := by
  constructor
  · intro none member
    obtain ⟨i,place,_⟩ := position?_of_mem member
    rw [none] at place
    cases place
  · intro absent
    cases place : s.position? x with
    | none => rfl
    | some i => exact absurd (List.mem_of_getElem? (position?_exact.mp place)) absent

theorem exists_places (s : Support) : ∃ e : {x // x ∈ s} ≃ Fin s.size,
    (∀ x, s.position? x.val = some (e x).val) ∧ ∀ x y, e x < e y ↔ x.val.id < y.val.id := by
  let e := (List.Nodup.getEquiv s.list s.nodup).symm
  have place : ∀ x : {x // x ∈ s}, s.list[(e x).val]? = some x.val := by
    intro x
    rw [List.getElem?_eq_getElem (e x).isLt]
    exact congrArg (some ∘ Subtype.val) (e.symm_apply_apply x)
  refine ⟨e,fun x => position?_exact.mpr (place x),?_⟩
  intro x y
  exact position_lt_exact (place x) (place y)

end Support

namespace Formula

theorem occurring_length (f : Formula) : f.occurring.length = f.numLiterals := by
  simp [occurring,numLiterals,List.length_flatMap,List.length_flatten]

theorem support_represents (f : Formula) :
    f.support.list = (f.occurring.mergeSort Support.byId).destutter (· ≠ ·) ∧
    f.support.list.Pairwise (·.id < ·.id) ∧
    (∀ x, x ∈ f.support.list ↔ ∃ c ∈ f.clauses, ∃ l ∈ c, l.var = x) ∧
    (∀ x, f.support.position? x = f.support.bisect x 0 f.support.size) ∧
    (∀ x i, f.support.position? x = some i ↔ f.support.list[i]? = some x) ∧
    (∀ x, f.support.position? x = none ↔ ¬ ∃ c ∈ f.clauses, ∃ l ∈ c, l.var = x) ∧
    (∃ e : {x // x ∈ f.support} ≃ Fin f.support.size,
      (∀ x, f.support.position? x.val = some (e x).val) ∧ ∀ x y, e x < e y ↔ x.val.id < y.val.id) ∧
    f.support.size ≤ f.numLiterals := by
  have occurs : ∀ x, x ∈ f.support ↔ ∃ c ∈ f.clauses, ∃ l ∈ c, l.var = x := fun _ => Support.mem_ofClauses
  have sorting : f.support = Support.ofSorting f.occurring := Support.ofList_sorting f.occurring
  refine ⟨congrArg Support.list sorting,f.support.ascending,occurs,f.support.position?_bisect,
    fun _ _ => Support.position?_exact,?_,f.support.exists_places,?_⟩
  · intro x
    rw [Support.position?_none,occurs]
  · rw [← occurring_length]
    calc f.support.size
      _ = f.occurring.dedup.length := f.numVariables_distinct
      _ ≤ f.occurring.length := (List.dedup_sublist _).length_le

end Formula
end CnfSearch
