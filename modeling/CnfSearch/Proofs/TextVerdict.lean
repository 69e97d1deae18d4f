import CnfSearch.Proofs.ClauseGrammar
import CnfSearch.Proofs.FirstWitness

namespace CnfSearch
open Dimacs

namespace Formula
variable {f : Formula}

theorem empty_satisfiable : empty.Satisfiable := ⟨fun _ => false,by simp [Holds,empty]⟩

theorem solve_empty (wanted : Interest) :
    ∃ m, (empty.solve wanted).value = .ok (.sat m) ∧ m.formula = empty ∧ m.assignment = [] := by
  have narrow : empty.numVariables ≤ Assignment.maxWidth := Nat.zero_le _
  obtain ⟨m,answered⟩ := (solve_finds_exact narrow).mpr empty_satisfiable
  obtain ⟨formula,satisfied,_⟩ := solve_witness narrow answered
  exact ⟨m,answered,formula,List.length_eq_zero_iff.mp (isSatisfiedBy_length satisfied)⟩

theorem solve_parsable : (f.solve wanted).value ≠ .error (.unparsable cause) := by
  intro refused
  cases (solve_error_exact.mp refused).2

theorem numVariables_zero (nonempty : ∀ c ∈ f.clauses, c ≠ []) : f.numVariables = 0 ↔ f.clauses = [] := by
  constructor
  · intro none
    apply List.eq_nil_iff_forall_not_mem.mpr
    intro c member
    obtain ⟨l,rest,rfl⟩ := List.exists_cons_of_ne_nil (nonempty c member)
    have occurs : l.var ∈ f.support := Support.mem_ofClauses.mpr ⟨_,member,l,List.mem_cons_self,rfl⟩
    rw [Support.mem_list,List.length_eq_zero_iff.mp none] at occurs
    cases occurs
  · intro none
    obtain ⟨clauses⟩ := f
    cases none
    rfl

end Formula

namespace Dimacs

theorem solveText_value (text : String) (wanted : Interest) : (solveText text wanted).value =
    match parse text with
    | .error cause => .error (.unparsable cause)
    | .ok parsed => (parsed.usable.solve wanted).value := by
  unfold solveText
  cases parse text <;> rfl

section Meaning
variable {text : String} {wanted : Interest} {f : Formula}

theorem solveText_refused : (solveText text wanted).value = .error (.unparsable cause) ↔
    parse text = .error cause := by
  rw [solveText_value]
  cases parse text with
  | error other => simp
  | ok parsed => simp [Formula.solve_parsable]

theorem solveText_rejected (rejected : parse text = .ok (.rejected f d)) :
    (solveText text wanted).value = (Formula.empty.solve wanted).value := by
  rw [solveText_value,rejected]
  rfl

theorem solveText_accepted (accepted : parse text = .ok (.accepted f)) :
    (solveText text wanted).value = (f.solve wanted).value := by
  rw [solveText_value,accepted]
  rfl

-- An accepted formula with a clause has a variable, and then no witness is empty.
theorem accepted_vacuous (accepted : parse text = .ok (.accepted f)) :
    (∃ m, (f.solve wanted).value = .ok (.sat m) ∧ m.assignment = []) ↔ f.clauses = [] := by
  have nonempty : ∀ c ∈ f.clauses, c ≠ [] := parse_nonempty accepted
  rw [← Formula.numVariables_zero nonempty]
  constructor
  · rintro ⟨m,answered,vacuous⟩
    obtain ⟨_,satisfied,_⟩ := Formula.solve_witness (Formula.solve_narrow answered) answered
    rw [← Formula.isSatisfiedBy_length satisfied,vacuous]
    rfl
  · intro none
    have same : f = .empty := by
      obtain ⟨clauses⟩ := f
      cases (Formula.numVariables_zero nonempty).mp none
      rfl
    obtain ⟨m,answered,_,vacuous⟩ := Formula.solve_empty wanted
    rw [same]
    exact ⟨m,answered,vacuous⟩

end Meaning

theorem solveText_decides (text : String) (wanted : Interest) :
    (∀ cause, (solveText text wanted).value = .error (.unparsable cause) ↔ parse text = .error cause) ∧
    (∀ f d, parse text = .ok (.rejected f d) →
      ∃ m, (solveText text wanted).value = .ok (.sat m) ∧ m.formula.clauses = [] ∧ m.assignment = []) ∧
    (∀ f, parse text = .ok (.accepted f) →
      (∀ n, (solveText text wanted).value = .error (.tooManyVariables n) ↔
        63 < f.occurring.dedup.length ∧ n = f.occurring.dedup.length) ∧
      ((solveText text wanted).value = .ok .unsat ↔
        f.occurring.dedup.length ≤ 63 ∧ ¬ ∃ v, f.Holds v) ∧
      ((∃ m, (solveText text wanted).value = .ok (.sat m)) ↔
        f.occurring.dedup.length ≤ 63 ∧ ∃ v, f.Holds v) ∧
      ∀ m, (solveText text wanted).value = .ok (.sat m) →
        m.formula.clauses = f.clauses ∧ f.isSatisfiedBy m.assignment = .ok true) ∧
    ((∃ m, (solveText text wanted).value = .ok (.sat m) ∧ m.assignment = []) ↔
      (∃ f d, parse text = .ok (.rejected f d)) ∨ ∃ f, parse text = .ok (.accepted f) ∧ f.clauses = []) := by
  refine ⟨fun _ => solveText_refused,?_,?_,?_⟩
  · intro f d rejected
    rw [solveText_rejected rejected]
    obtain ⟨m,answered,formula,vacuous⟩ := Formula.solve_empty wanted
    exact ⟨m,answered,by rw [formula]; rfl,vacuous⟩
  · intro f accepted
    rw [solveText_accepted accepted,← Formula.numVariables_distinct]
    refine ⟨fun n => Formula.solve_tooMany_exact,?_,?_,?_⟩
    · constructor
      · intro refuted
        have narrow := Formula.solve_narrow refuted
        exact ⟨narrow,(Formula.solve_unsat_exact narrow).mp refuted⟩
      · rintro ⟨narrow,unsatisfied⟩
        exact (Formula.solve_unsat_exact narrow).mpr unsatisfied
    · constructor
      · rintro ⟨m,answered⟩
        have narrow := Formula.solve_narrow answered
        exact ⟨narrow,(Formula.solve_finds_exact narrow).mp ⟨m,answered⟩⟩
      · rintro ⟨narrow,satisfiable⟩
        exact (Formula.solve_finds_exact narrow).mpr satisfiable
    · intro m answered
      obtain ⟨formula,satisfied,_⟩ := Formula.solve_witness (Formula.solve_narrow answered) answered
      exact ⟨by rw [formula],satisfied⟩
  · cases parsed : parse text with
    | error cause => simp [solveText_value,parsed]
    | ok p =>
      cases p with
      | rejected f d =>
        rw [solveText_rejected parsed]
        obtain ⟨m,answered,_,vacuous⟩ := Formula.solve_empty wanted
        simp [answered,vacuous]
      | accepted f =>
        rw [solveText_accepted parsed,accepted_vacuous parsed]
        simp

end Dimacs
end CnfSearch
