import CnfSearch.Proofs.Answers
import CnfSearch.Proofs.NamedValues

-- Formulas compared by their clauses: with the same ones, and with some of them.
namespace CnfSearch.Formula

variable {f g : Formula}

section SameClauses

-- Order and repetition are not seen, of clauses as little as of the literals within one.
def clauseSet (f : Formula) : Finset (Finset Literal) := (f.clauses.map List.toFinset).toFinset

theorem mem_support_clauseSet {x : Variable} : x ∈ f.support ↔ ∃ s ∈ f.clauseSet, ∃ l ∈ s, l.var = x := by
  simp [support,Support.mem_ofClauses,clauseSet]

theorem eval_clauseSet {i : Interpretation} :
    f.eval i = true ↔ ∀ s ∈ f.clauseSet, ∃ l ∈ s, l.eval i = true := by
  simp [eval,Clause.eval,clauseSet]

variable (same : f.clauseSet = g.clauseSet)
include same

theorem support_clauseSet : f.support = g.support := by
  apply Support.eq_of_mem
  intro x
  rw [mem_support_clauseSet,mem_support_clauseSet,same]

theorem isSatisfiedBy_clauseSet (a : Assignment) : f.isSatisfiedBy a = g.isSatisfiedBy a := by
  have evaluated : (eval · f) = (eval · g) := by
    funext i
    rw [Bool.eq_iff_iff,eval_clauseSet,eval_clauseSet,same]
  unfold isSatisfiedBy
  rw [support_clauseSet same,evaluated]

end SameClauses

theorem solve_clauseSet (same : f.clauseSet = g.clauseSet) (wanted : Interest) :
    f.support = g.support ∧ (∀ a : Assignment, f.isSatisfiedBy a = g.isSatisfiedBy a) ∧
    (f.solve wanted).value.map Verdict.witness? = (g.solve wanted).value.map Verdict.witness? := by
  have support := support_clauseSet same
  refine ⟨support,isSatisfiedBy_clauseSet same,?_⟩
  apply solve_witness?_congr
  · exact congrArg Support.size support
  · intro a _
    exact isSatisfiedBy_clauseSet same a

-- Two clauses written as three, in another order and with literals repeated.
theorem solve_clauseSet_repeated :
    let x2 : Variable := ⟨2,by decide,by decide⟩
    let x3 : Variable := ⟨3,by decide,by decide⟩
    let x8 : Variable := ⟨8,by decide,by decide⟩
    let f : Formula := ⟨[[⟨x3,true⟩,⟨x8,false⟩],[⟨x8,true⟩,⟨x2,true⟩]]⟩
    let g : Formula := ⟨[[⟨x2,true⟩,⟨x8,true⟩,⟨x2,true⟩],[⟨x8,false⟩,⟨x3,true⟩],[⟨x8,true⟩,⟨x2,true⟩]]⟩
    f.clauseSet = g.clauseSet ∧ f.support = g.support ∧
    g.isSatisfiedBy [false,true,true] = .ok true ∧
    (g.solve .none).value.map Verdict.witness? = .ok (some [true,false,false]) := by
  intro x2 x3 x8 f g
  have same : f.clauseSet = g.clauseSet := by decide
  obtain ⟨support,satisfied,answer⟩ := solve_clauseSet same .none
  have first : (f.solve .none).value.map Verdict.witness? = .ok (some [true,false,false]) := by
    rw [solve_map]
    decide
  refine ⟨same,support,?_,answer.symm.trans first⟩
  rw [← satisfied]
  decide

section MoreClauses
variable (included : ∀ c ∈ f.clauses, c ∈ g.clauses)
include included

theorem support_included : ∀ x ∈ f.support, x ∈ g.support := by
  intro x member
  obtain ⟨c,inFormula,l,inClause,rfl⟩ := Support.mem_ofClauses.mp member
  exact Support.mem_ofClauses.mpr ⟨c,included c inFormula,l,inClause,rfl⟩

theorem holds_included {v : Valuation} (holds : g.Holds v) : f.Holds v :=
  fun c member => holds c (included c member)

theorem satisfiable_included (satisfiable : g.Satisfiable) : f.Satisfiable := by
  obtain ⟨v,holds⟩ := satisfiable
  exact ⟨v,holds_included included holds⟩

theorem restricts_satisfied {a b : Assignment} (satisfied : g.isSatisfiedBy b = .ok true)
    (fits : a.length = f.numVariables) (restricts : Restricts f g a b) : f.isSatisfiedBy a = .ok true := by
  obtain ⟨v,rfl⟩ := Support.map_of_fits (isSatisfiedBy_length satisfied)
  obtain rfl := (restricts_exact (support_included included)).mp ⟨fits,restricts⟩
  exact isSatisfiedBy_map.mpr (holds_included included (isSatisfiedBy_map.mp satisfied))

theorem solve_unsat_included (narrow : g.numVariables ≤ Assignment.maxWidth)
    (refuted : (f.solve wanted).value = .ok .unsat) : (g.solve wanted).value = .ok .unsat := by
  have unsatisfiable := (solve_unsat_exact (solve_narrow refuted)).mp refuted
  exact (solve_unsat_exact narrow).mpr fun satisfiable => unsatisfiable (satisfiable_included included satisfiable)

theorem solve_sat_included (answered : (g.solve wanted).value = .ok (.sat m)) :
    ∃ n, (f.solve wanted).value = .ok (.sat n) := by
  have wide := solve_narrow answered
  have narrow := Nat.le_trans (numVariables_covered (support_included included)) wide
  have satisfiable := (solve_finds_exact wide).mp ⟨m,answered⟩
  exact (solve_finds_exact narrow).mpr (satisfiable_included included satisfiable)

end MoreClauses

theorem solve_included (included : ∀ c ∈ f.clauses, c ∈ g.clauses) (wanted : Interest) :
    (∀ x ∈ f.support, x ∈ g.support) ∧
    (∀ b : Assignment, g.isSatisfiedBy b = .ok true →
      (∃! a : Assignment, a.length = f.numVariables ∧ Restricts f g a b) ∧
      ∀ a : Assignment, a.length = f.numVariables → Restricts f g a b → f.isSatisfiedBy a = .ok true) ∧
    (g.numVariables ≤ 63 → (f.solve wanted).value = .ok .unsat → (g.solve wanted).value = .ok .unsat) ∧
    ∀ m, (g.solve wanted).value = .ok (.sat m) →
      (∀ a : Assignment, a.length = f.numVariables → Restricts f g a m.assignment → f.isSatisfiedBy a = .ok true) ∧
      ∃ n, (f.solve wanted).value = .ok (.sat n) ∧
        (f.support = g.support → n.assignment.toIndex ≤ m.assignment.toIndex) := by
  have covered := support_included included
  refine ⟨covered,?_,solve_unsat_included included,?_⟩
  · intro b satisfied
    exact ⟨restricts_existsUnique covered (isSatisfiedBy_length satisfied),
      fun _ => restricts_satisfied included satisfied⟩
  · intro m answered
    obtain ⟨_,satisfied,_⟩ := solve_witness (solve_narrow answered) answered
    obtain ⟨n,found⟩ := solve_sat_included included answered
    refine ⟨fun _ => restricts_satisfied included satisfied,n,found,?_⟩
    intro support
    have fits : m.assignment.length = f.numVariables :=
      (isSatisfiedBy_length satisfied).trans (congrArg Support.size support).symm
    exact solve_least found (restricts_satisfied included satisfied fits (restricts_self support fits))

-- Clauses over the old variables push the witness from number 1 to number 2. A clause with
-- two more variables moves both of these.
theorem solve_included_spread :
    let x1 : Variable := ⟨1,by decide,by decide⟩
    let x3 : Variable := ⟨3,by decide,by decide⟩
    let x5 : Variable := ⟨5,by decide,by decide⟩
    let x8 : Variable := ⟨8,by decide,by decide⟩
    let f : Formula := ⟨[[⟨x3,true⟩,⟨x8,true⟩]]⟩
    let g : Formula := ⟨[[⟨x8,true⟩],[⟨x3,true⟩,⟨x8,true⟩]]⟩
    let h : Formula := ⟨[[⟨x3,true⟩,⟨x8,true⟩],[⟨x5,true⟩,⟨x1,false⟩]]⟩
    (∀ c ∈ f.clauses, c ∈ g.clauses) ∧ (∀ c ∈ f.clauses, c ∈ h.clauses) ∧
    h.isSatisfiedBy [true,false,true,true] = .ok true ∧ Restricts f h [false,true] [true,false,true,true] ∧
    f.isSatisfiedBy [false,true] = .ok true ∧ f.support = g.support ∧
    ∃ m n, (g.solve .none).value = .ok (.sat m) ∧ (f.solve .none).value = .ok (.sat n) ∧
      n.assignment.toIndex ≤ m.assignment.toIndex := by
  intro x1 x3 x5 x8 f g h
  have inG : ∀ c ∈ f.clauses, c ∈ g.clauses := by decide
  have inH : ∀ c ∈ f.clauses, c ∈ h.clauses := by decide
  have satisfied : h.isSatisfiedBy [true,false,true,true] = .ok true := by decide
  have restricts : ∀ x ∈ f.support.list, ∃ value, f.support.valueOf? [false,true] x = some value ∧
      h.support.valueOf? [true,false,true,true] x = some value := by decide
  have support : f.support = g.support := by decide
  have answered : (g.solve .none).value = .ok (.sat (g.modelAt 2)) :=
    (solve_sat_exact (by decide)).mpr ⟨2,by decide,rfl⟩
  obtain ⟨_,each,_⟩ := solve_included inH .none
  obtain ⟨_,_,_,met⟩ := solve_included inG .none
  obtain ⟨_,n,found,bound⟩ := met _ answered
  have projected := (each _ satisfied).2 [false,true] (by decide) restricts
  exact ⟨inG,inH,satisfied,restricts,projected,support,_,n,answered,found,bound support⟩

end CnfSearch.Formula
