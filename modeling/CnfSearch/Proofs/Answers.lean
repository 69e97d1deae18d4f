import CnfSearch.Proofs.FirstWitness

-- What two formulas must share to be answered alike.
namespace CnfSearch.Formula
open Assignment

variable {f g : Formula}

theorem solve_map (f : Formula) (wanted : Interest) (read : Verdict → α) :
    (f.solve wanted).value.map read =
      if f.numVariables ≤ maxWidth then .ok (read (.ofSearch (f.firstIndex?.map f.modelAt)))
      else .error (.tooManyVariables f.numVariables) := by
  by_cases narrow : f.numVariables ≤ maxWidth
  · rw [if_pos narrow,f.solve_value narrow]
    rfl
  · rw [if_neg narrow,f.solve_wide (Nat.not_le.mp narrow)]
    rfl

theorem isSat_modelAt (index? : Option Nat) :
    (Verdict.ofSearch (index?.map f.modelAt)).isSat = index?.isSome := by
  cases index? <;> rfl

theorem witness?_modelAt (index? : Option Nat) :
    (Verdict.ofSearch (index?.map f.modelAt)).witness? = index?.map (numbered f.numVariables) := by
  cases index? <;> rfl

theorem solve_isSat_congr (size : f.numVariables = g.numVariables) (alike : f.Satisfiable ↔ g.Satisfiable)
    (wanted : Interest) :
    (f.solve wanted).value.map Verdict.isSat = (g.solve wanted).value.map Verdict.isSat := by
  have found : f.firstIndex?.isSome = g.firstIndex?.isSome := by
    rw [Bool.eq_iff_iff,Option.isSome_iff_ne_none,Option.isSome_iff_ne_none,ne_eq,ne_eq,
      firstIndex?_none,firstIndex?_none,alike]
  rw [solve_map,solve_map,isSat_modelAt,isSat_modelAt,size,found]

theorem solve_witness?_congr (size : f.numVariables = g.numVariables)
    (alike : ∀ a : Assignment, a.length = f.numVariables → f.isSatisfiedBy a = g.isSatisfiedBy a)
    (wanted : Interest) :
    (f.solve wanted).value.map Verdict.witness? = (g.solve wanted).value.map Verdict.witness? := by
  have tests : f.satisfiedAt = g.satisfiedAt := by
    funext index
    rw [Bool.eq_iff_iff,satisfiedAt_exact,satisfiedAt_exact,alike _ numbered_length,size]
  have first : f.firstIndex? = g.firstIndex? := by
    unfold firstIndex?
    rw [size,tests]
  rw [solve_map,solve_map,witness?_modelAt,witness?_modelAt,size,first]

theorem solve_least (answered : (f.solve wanted).value = .ok (.sat m)) (satisfied : f.isSatisfiedBy b = .ok true) :
    toIndex m.assignment ≤ toIndex b := by
  obtain ⟨_,_,first⟩ := solve_witness (solve_narrow answered) answered
  by_cases same : b = m.assignment
  · rw [same]
  · exact Nat.le_of_lt (toIndex_lt_of_precedes (first b satisfied same))

end CnfSearch.Formula
