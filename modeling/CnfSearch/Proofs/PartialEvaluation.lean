import CnfSearch.Proofs.Evaluation

-- What evaluation says over a support that need not be the formula's own.
namespace CnfSearch

namespace Interpretation
variable {i : Interpretation} {v : Valuation}

theorem value?_outside (outside : x ∉ i.support) : i.value? x = none := by
  apply Option.eq_none_iff_forall_ne_some.mpr
  intro value found
  obtain ⟨position,atPosition,_⟩ := value?_exact.mp found
  exact outside (List.mem_of_getElem? (Support.position?_exact.mp atPosition))

theorem value?_map {xs : List Variable} (agrees : i.Agrees v) (covered : ∀ x ∈ xs, x ∈ i.support) :
    xs.map i.value? = (xs.map v).map some := by
  rw [List.map_map]
  apply List.map_congr_left
  intro x member
  obtain ⟨value,found⟩ := i.value?_of_mem (covered x member)
  rw [found,Function.comp_apply,agrees x value found]

end Interpretation

section Sound
variable {i : Interpretation} {v : Valuation}

theorem Literal.eval_inside {l : Literal} (inside : l.var ∈ i.support) :
    ∃ position value, i.support.position? l.var = some position ∧ i.values[position]? = some value ∧
      l.eval i = (value == l.positive) ∧ l.neg.eval i = (value == l.neg.positive) := by
  obtain ⟨value,found⟩ := i.value?_of_mem inside
  obtain ⟨position,place,atPosition⟩ := Interpretation.value?_exact.mp found
  exact ⟨position,value,place,atPosition,by simp [Literal.eval,found],by simp [Literal.eval,Literal.neg,found]⟩

theorem Literal.eval_outside {l : Literal} (outside : l.var ∉ i.support) : l.eval i = false := by
  simp [Literal.eval,Interpretation.value?_outside outside]

theorem Literal.eval_sound (agrees : i.Agrees v) {l : Literal} (satisfied : l.eval i = true) : l.Holds v := by
  by_cases covered : l.var ∈ i.support
  · exact (Literal.eval_exact agrees covered).mp satisfied
  · rw [Literal.eval_outside covered] at satisfied
    cases satisfied

-- No other literal than the true one has to be covered.
theorem Clause.eval_sound (agrees : i.Agrees v) {c : Clause} (satisfied : Clause.eval i c = true) :
    Clause.Holds v c := by
  obtain ⟨l,member,satisfied⟩ := List.any_eq_true.mp satisfied
  exact ⟨l,member,Literal.eval_sound agrees satisfied⟩

theorem Formula.eval_sound (agrees : i.Agrees v) {f : Formula} (satisfied : f.eval i = true) : f.Holds v := by
  intro c member
  exact Clause.eval_sound agrees (List.all_eq_true.mp satisfied c member)

end Sound

namespace Formula
variable {f : Formula} {i : Interpretation}

theorem isSatisfiedBy_ofValuation (f : Formula) (v : Valuation) :
    f.isSatisfiedBy (f.support.list.map v) = .ok (f.eval (.ofValuation f.support v)) := by
  have aligned : Interpretation.align f.support (f.support.list.map v) = .ok (.ofValuation f.support v) :=
    Interpretation.align_exact.mpr ⟨rfl,rfl⟩
  rw [isSatisfiedBy,aligned]
  rfl

theorem eval_covered (covered : ∀ x ∈ f.support, x ∈ i.support) :
    ∃ own : Assignment, f.support.list.map i.value? = own.map some ∧ f.isSatisfiedBy own = .ok (f.eval i) := by
  have agrees := i.agrees_valuation
  refine ⟨f.support.list.map i.valuation,Interpretation.value?_map agrees covered,?_⟩
  have ownAgrees := Interpretation.ofValuation_agrees f.support i.valuation
  have same : f.eval (.ofValuation f.support i.valuation) = f.eval i := by
    rw [Bool.eq_iff_iff,eval_exact ownAgrees fun _ member => member,eval_exact agrees covered]
  rw [isSatisfiedBy_ofValuation,same]

theorem eval_partial (f : Formula) {clauses : List Clause} {values : Assignment}
    (fits : values.length = (Support.ofClauses clauses).size) :
    ∃ i, Interpretation.align (.ofClauses clauses) values = .ok i ∧
      (∀ l : Literal,
        (l.var ∈ Support.ofClauses clauses → ∃ position value,
          (Support.ofClauses clauses).position? l.var = some position ∧ values[position]? = some value ∧
          (l.eval i = true ↔ l.positive = value) ∧ (l.neg.eval i = true ↔ l.neg.positive = value) ∧
          l.neg.eval i = !l.eval i) ∧
        (l.var ∉ Support.ofClauses clauses → l.eval i = false ∧ l.neg.eval i = false)) ∧
      (f.eval i = true → ∀ v : Valuation, (Support.ofClauses clauses).list.map v = values → f.Holds v) ∧
      ((∀ x ∈ f.support, x ∈ Support.ofClauses clauses) →
        (∀ v : Valuation, (Support.ofClauses clauses).list.map v = values → (f.eval i = true ↔ f.Holds v)) ∧
        (f.eval i = true ↔ ∀ v : Valuation, (Support.ofClauses clauses).list.map v = values → f.Holds v) ∧
        ∃ own : Assignment, f.support.list.map i.value? = own.map some ∧ f.isSatisfiedBy own = .ok (f.eval i)) := by
  obtain ⟨i,support,same⟩ : ∃ i : Interpretation, i.support = .ofClauses clauses ∧ i.values = values :=
    ⟨⟨_,_,fits.symm⟩,rfl,rfl⟩
  rw [← support,← same]
  simp only [← Interpretation.agrees_exact]
  refine ⟨i,Interpretation.align_exact.mpr ⟨rfl,rfl⟩,?_,?_,?_⟩
  · intro l
    constructor
    · intro inside
      obtain ⟨position,value,place,atPosition,plain,denied⟩ := Literal.eval_inside inside
      refine ⟨position,value,place,atPosition,?_,?_,?_⟩
      · rw [plain,beq_iff_eq,eq_comm]
      · rw [denied,beq_iff_eq,eq_comm]
      · rw [plain,denied,Literal.neg]
        cases value <;> cases l.positive <;> rfl
    · intro outside
      exact ⟨Literal.eval_outside outside,Literal.eval_outside (l := l.neg) outside⟩
  · intro satisfied v agrees
    exact eval_sound agrees satisfied
  · intro covered
    refine ⟨fun v agrees => eval_exact agrees covered,?_,eval_covered covered⟩
    constructor
    · intro satisfied v agrees
      exact eval_sound agrees satisfied
    · intro always
      exact (eval_exact i.agrees_valuation covered).mpr (always _ i.agrees_valuation)

-- The support has the variables 2, 3 and 8. One formula also speaks of variable 9, and the
-- other has variables 3 and 8 at positions of its own.
theorem eval_partial_shifted :
    let x2 : Variable := ⟨2,by decide,by decide⟩
    let x3 : Variable := ⟨3,by decide,by decide⟩
    let x8 : Variable := ⟨8,by decide,by decide⟩
    let x9 : Variable := ⟨9,by decide,by decide⟩
    let clauses : List Clause := [[⟨x8,true⟩],[⟨x3,false⟩,⟨x2,true⟩]]
    let wide : Formula := ⟨[[⟨x9,false⟩,⟨x8,true⟩],[⟨x3,false⟩]]⟩
    let narrow : Formula := ⟨[[⟨x8,true⟩],[⟨x3,false⟩]]⟩
    [true,false,true].length = (Support.ofClauses clauses).size ∧ x9 ∉ Support.ofClauses clauses ∧
    (∀ v : Valuation, (Support.ofClauses clauses).list.map v = [true,false,true] → wide.Holds v) ∧
    (∀ x ∈ narrow.support, x ∈ Support.ofClauses clauses) ∧
    narrow.isSatisfiedBy [false,true] = .ok true := by
  intro x2 x3 x8 x9 clauses wide narrow
  have fits : [true,false,true].length = (Support.ofClauses clauses).size := by decide
  have outside : x9 ∉ (Support.ofClauses clauses).list := by decide
  have covered : ∀ x ∈ narrow.support.list, x ∈ (Support.ofClauses clauses).list := by decide
  obtain ⟨i,aligned,_,holds,_⟩ := eval_partial wide fits
  obtain ⟨j,alignedAgain,_,_,exactly⟩ := eval_partial narrow fits
  cases aligned
  cases alignedAgain
  obtain ⟨_,_,own,values,same⟩ := exactly covered
  have found : own.map some = [false,true].map some := values.symm.trans (by decide)
  rw [List.map_injective_iff.mpr (Option.some_injective _) found] at same
  exact ⟨fits,outside,holds (by decide),covered,same⟩

end Formula
end CnfSearch
