import CnfSearch.Proofs.Enumeration
import CnfSearch.Proofs.Evaluation
import CnfSearch.Verdict

namespace CnfSearch.Formula
open Assignment

variable (f : Formula)

def interpretationAt (index : Nat) : Interpretation :=
  ⟨f.support,numbered f.numVariables index,by simp [numVariables]⟩

def satisfiedAt (index : Nat) : Bool := f.eval (f.interpretationAt index)

theorem satisfiedAt_exact (index : Nat) :
    f.satisfiedAt index = true ↔ f.isSatisfiedBy (numbered f.numVariables index) = .ok true := by
  rw [isSatisfiedBy_exact]
  constructor
  · intro satisfied
    exact ⟨f.interpretationAt index,rfl,rfl,satisfied⟩
  · rintro ⟨⟨support,values,aligned⟩,rfl,rfl,satisfied⟩
    exact satisfied

theorem align_numbered (index : Nat) :
    Interpretation.align f.support (numbered f.numVariables index) = .ok (f.interpretationAt index) :=
  Interpretation.align_exact.mpr ⟨rfl,rfl⟩

theorem searchFrom_finished {c : Cursor} (finished : c.index = c.stop) (journal : Journal) :
    f.searchFrom f.support c journal = .ok (none,journal.note .exhausted) := by
  have stepped := Cursor.next_finished finished
  rw [searchFrom]
  split <;> simp_all

theorem searchFrom_more {c : Cursor} (placed : c.Placed) (width : c.width = f.numVariables)
    (more : c.index < c.stop) (journal : Journal) :
    f.searchFrom f.support c journal =
      if f.satisfiedAt c.index then
        .ok (some (numbered f.numVariables c.index),
          (journal.note (.tried c.index true)).note (.found c.index))
      else f.searchFrom f.support c.advanced (journal.note (.tried c.index false)) := by
  have stepped := Cursor.next_more placed more
  rw [width] at stepped
  rw [searchFrom]
  split
  · simp_all
  · simp_all
  · rename_i values after given
    rw [stepped] at given
    cases given
    simp only [align_numbered]
    cases satisfied : f.satisfiedAt c.index <;> simp_all [satisfiedAt]

-- Induction is on how many numbers are left.
theorem searchFrom_first {c : Cursor} (placed : c.Placed) (width : c.width = f.numVariables)
    (journal : Journal) : (f.searchFrom f.support c journal).map Prod.fst =
      .ok (((List.range' c.index (c.stop - c.index)).find? f.satisfiedAt).map
        (numbered f.numVariables)) := by
  generalize left : c.stop - c.index = count
  induction count generalizing c journal with
  | zero =>
    have finished : c.index = c.stop := Nat.le_antisymm placed.within (Nat.sub_eq_zero_iff_le.mp left)
    rw [f.searchFrom_finished finished]
    rfl
  | succ count ih =>
    have more : c.index < c.stop := by omega
    rw [f.searchFrom_more placed width more,List.range'_succ]
    cases satisfied : f.satisfiedAt c.index with
    | true => simp [satisfied,Except.map]
    | false =>
      have left : c.advanced.stop - c.advanced.index = count := by
        simp only [Cursor.advanced]
        omega
      have searched := ih (placed.advanced more) width (journal.note (.tried c.index false)) left
      simpa [satisfied,Cursor.advanced] using searched

-- The least number of a satisfying assignment.
def firstIndex? : Option Nat := (List.range (2 ^ f.numVariables)).find? f.satisfiedAt

def firstCursor : Cursor := ⟨f.numVariables,0,2 ^ f.numVariables⟩

def openJournal (wanted : Interest) : Journal :=
  (Journal.start wanted).note
    (.searching (2 ^ f.numVariables) f.numVariables f.numClauses f.numLiterals)

def modelAt (index : Nat) : Model := ⟨f,numbered f.numVariables index,by simp [numVariables]⟩

theorem align_model (index : Nat) :
    Model.align f (numbered f.numVariables index) = .ok (f.modelAt index) := by
  unfold Model.align
  exact dif_pos (f.modelAt index).aligned

theorem search_exact (narrow : f.numVariables ≤ maxWidth) {index? : Option Nat}
    (looped : f.searchFrom f.support f.firstCursor (f.openJournal wanted) =
      .ok (index?.map (numbered f.numVariables),journal)) :
    f.search wanted = .ok ⟨index?.map f.modelAt,journal.events⟩ := by
  have started : Cursor.start f.support.size = .ok f.firstCursor := Cursor.start_exact narrow
  have bounds : f.firstCursor.sizeBounds = .ok (2 ^ f.numVariables,some (2 ^ f.numVariables)) :=
    Cursor.sizeBounds_exact (Cursor.start_placed narrow)
  unfold openJournal numVariables at looped
  simp only [search,started,bounds,bind,Except.bind,numVariables,looped]
  cases index? with
  | none => rfl
  | some index =>
    have aligned := f.align_model index
    unfold numVariables at aligned
    simp only [Option.map_some,aligned]
    rfl

theorem search_value (narrow : f.numVariables ≤ maxWidth) (wanted : Interest) :
    (f.search wanted).map Logged.value = .ok (f.firstIndex?.map f.modelAt) := by
  have first := f.searchFrom_first (c := f.firstCursor) (Cursor.start_placed narrow) rfl (f.openJournal wanted)
  cases looped : f.searchFrom f.support f.firstCursor (f.openJournal wanted) with
  | error fault => simp [looped,Except.map] at first
  | ok ended =>
    obtain ⟨found,journal⟩ := ended
    rw [looped] at first
    have found : found = f.firstIndex?.map (numbered f.numVariables) := by
      simpa [Except.map,firstCursor,firstIndex?,List.range_eq_range'] using first
    subst found
    rw [f.search_exact narrow looped]
    rfl

theorem solve_value (narrow : f.numVariables ≤ maxWidth) (wanted : Interest) :
    (f.solve wanted).value = .ok (.ofSearch (f.firstIndex?.map f.modelAt)) := by
  have searched := f.search_value narrow wanted
  unfold solve
  rw [if_pos narrow]
  cases ran : f.search wanted with
  | error cause => simp [ran,Except.map] at searched
  | ok logged =>
    rw [ran] at searched
    have value : logged.value = f.firstIndex?.map f.modelAt := Except.ok.inj searched
    simp [value]

theorem solve_wide (wide : maxWidth < f.numVariables) (wanted : Interest) :
    (f.solve wanted).value = .error (.tooManyVariables f.numVariables) := by
  simp [solve,Nat.not_le.mpr wide]

variable {f : Formula}

theorem isSatisfiedBy_length (satisfied : f.isSatisfiedBy values = .ok true) :
    values.length = f.numVariables := by
  obtain ⟨i,support,same,_⟩ := isSatisfiedBy_exact.mp satisfied
  rw [← same,← i.aligned,support]
  rfl

theorem satisfiedAt_toIndex (satisfied : f.isSatisfiedBy values = .ok true) :
    f.satisfiedAt (toIndex values) = true ∧ toIndex values < 2 ^ f.numVariables := by
  have length := isSatisfiedBy_length satisfied
  constructor
  · rw [satisfiedAt_exact,← length,numbered_toIndex]
    exact satisfied
  · rw [← length]
    exact toIndex_bound values

theorem firstIndex?_least (first : f.firstIndex? = some index) :
    f.isSatisfiedBy (numbered f.numVariables index) = .ok true ∧ index < 2 ^ f.numVariables ∧
      ∀ values, f.isSatisfiedBy values = .ok true → index ≤ toIndex values := by
  obtain ⟨satisfied,bound,earlier⟩ := List.find?_range_eq_some.mp first
  refine ⟨(f.satisfiedAt_exact index).mp satisfied,List.mem_range.mp bound,?_⟩
  intro values other
  by_contra less
  have refuted := earlier (toIndex values) (Nat.not_le.mp less)
  rw [(satisfiedAt_toIndex other).1] at refuted
  cases refuted

theorem firstIndex?_none : f.firstIndex? = none ↔ ¬ f.Satisfiable := by
  rw [satisfiable_exact,not_exists]
  constructor
  · intro absent values satisfied
    obtain ⟨met,bound⟩ := satisfiedAt_toIndex satisfied
    exact List.find?_eq_none.mp absent _ (List.mem_range.mpr bound) met
  · intro unsatisfied
    apply List.find?_eq_none.mpr
    intro index _ satisfied
    exact unsatisfied _ ((f.satisfiedAt_exact index).mp satisfied)

theorem solve_error_exact : (f.solve wanted).value = .error e ↔
    maxWidth < f.numVariables ∧ e = .tooManyVariables f.numVariables := by
  by_cases narrow : f.numVariables ≤ maxWidth
  · simp [f.solve_value narrow,Nat.not_lt.mpr narrow]
  · have wide := Nat.not_le.mp narrow
    simp [f.solve_wide wide,wide,eq_comm]

theorem solve_tooMany_exact : (f.solve wanted).value = .error (.tooManyVariables n) ↔
    maxWidth < f.numVariables ∧ n = f.numVariables := by
  rw [solve_error_exact,SolveError.tooManyVariables.injEq]

theorem solve_narrow (answered : (f.solve wanted).value = .ok answer) :
    f.numVariables ≤ maxWidth := by
  by_contra wide
  rw [f.solve_wide (Nat.not_le.mp wide)] at answered
  cases answered

theorem solve_sat_exact (narrow : f.numVariables ≤ maxWidth) :
    (f.solve wanted).value = .ok (.sat m) ↔ ∃ index, f.firstIndex? = some index ∧ m = f.modelAt index := by
  rw [f.solve_value narrow]
  cases first : f.firstIndex? with
  | none => simp [Verdict.ofSearch]
  | some index =>
    simp only [Option.map_some,Verdict.ofSearch,Except.ok.injEq,Verdict.sat.injEq,Option.some.injEq,
      exists_eq_left']
    exact eq_comm

theorem solve_unsat_exact (narrow : f.numVariables ≤ maxWidth) :
    (f.solve wanted).value = .ok .unsat ↔ ¬ f.Satisfiable := by
  rw [f.solve_value narrow,← firstIndex?_none]
  cases first : f.firstIndex? with
  | none => simp [Verdict.ofSearch]
  | some index => simp [Verdict.ofSearch]

theorem solve_finds_exact (narrow : f.numVariables ≤ maxWidth) :
    (∃ m, (f.solve wanted).value = .ok (.sat m)) ↔ f.Satisfiable := by
  rw [← not_iff_not,← firstIndex?_none]
  simp only [solve_sat_exact narrow]
  cases first : f.firstIndex? with
  | none => simp
  | some index => simp

theorem solve_witness (narrow : f.numVariables ≤ maxWidth) (answered : (f.solve wanted).value = .ok (.sat m)) :
    m.formula = f ∧ f.isSatisfiedBy m.assignment = .ok true ∧
      ∀ b, f.isSatisfiedBy b = .ok true → b ≠ m.assignment → Precedes m.assignment b := by
  obtain ⟨index,first,rfl⟩ := (solve_sat_exact narrow).mp answered
  obtain ⟨satisfied,bound,least⟩ := firstIndex?_least first
  refine ⟨rfl,satisfied,?_⟩
  intro b other different
  have length : (f.modelAt index).assignment.length = b.length := by
    rw [isSatisfiedBy_length other]
    exact numbered_length
  have number : toIndex (f.modelAt index).assignment = index := toIndex_numbered bound
  apply (precedes_exact length).mpr
  apply Nat.lt_of_le_of_ne
  · rw [number]
    exact least b other
  · intro same
    exact different (toIndex_injective length same).symm

theorem solve_decides (f : Formula) (wanted : Interest) :
    (63 < f.occurring.dedup.length →
      (f.solve wanted).value = .error (.tooManyVariables f.occurring.dedup.length)) ∧
    (f.occurring.dedup.length ≤ 63 →
      ((∃ m, (f.solve wanted).value = .ok (.sat m)) ↔ ∃ v, f.Holds v) ∧
      ((f.solve wanted).value = .ok .unsat ↔ ¬ ∃ v, f.Holds v)) ∧
    ∀ m, (f.solve wanted).value = .ok (.sat m) →
      m.formula.clauses = f.clauses ∧ m.assignment.length = f.numVariables ∧
      f.isSatisfiedBy m.assignment = .ok true ∧
      ∀ b : Assignment, b.length = f.numVariables → f.isSatisfiedBy b = .ok true →
        b ≠ m.assignment → Precedes m.assignment b ∧ toIndex m.assignment < toIndex b := by
  rw [← numVariables_distinct]
  refine ⟨fun wide => f.solve_wide wide wanted,fun narrow => ⟨solve_finds_exact narrow,solve_unsat_exact narrow⟩,?_⟩
  intro m answered
  obtain ⟨formula,satisfied,first⟩ := solve_witness (solve_narrow answered) answered
  refine ⟨by rw [formula],isSatisfiedBy_length satisfied,satisfied,?_⟩
  intro b _ other different
  have precedes := first b other different
  exact ⟨precedes,toIndex_lt_of_precedes precedes⟩

end CnfSearch.Formula
