import CnfSearch.Proofs.TextVerdict

-- What each step of deciding relies on has been settled before it is taken.
namespace CnfSearch

namespace Cursor
variable {width : Nat} {c : Cursor}

-- The cursors of one width that come of stepping and jumping, in any order.
inductive Visited (width : Nat) : Cursor → Prop where
  | start {c : Cursor} (started : start width = .ok c) : Visited width c
  | next {c after : Cursor} {item : Option Assignment} (before : Visited width c)
      (stepped : c.next = .ok (item,after)) : Visited width after
  | nextAfter {c after : Cursor} {item : Option Assignment} {count : Nat} (before : Visited width c)
      (jumped : c.nextAfter count = .ok (item,after)) : Visited width after

theorem next_placed (placed : c.Placed) (stepped : c.next = .ok (item,after)) :
    after.Placed ∧ after.width = c.width := by
  obtain ⟨_,_,given,kept,same,_⟩ := next_total placed
  rw [given] at stepped
  cases stepped
  exact ⟨kept,same⟩

theorem visited_placed (visited : Visited width c) : c.Placed ∧ c.width = width := by
  induction visited with
  | start started =>
    by_cases narrow : width ≤ Assignment.maxWidth
    · rw [start_exact narrow] at started
      cases started
      exact ⟨start_placed narrow,rfl⟩
    · rw [start_wide (Nat.not_le.mp narrow)] at started
      cases started
  | next _ stepped ih =>
    obtain ⟨placed,same⟩ := next_placed ih.1 stepped
    exact ⟨placed,same.trans ih.2⟩
  | nextAfter _ jumped ih =>
    rw [nextAfter_exact ih.1] at jumped
    obtain ⟨placed,same⟩ := next_placed (ih.1.skipped _) jumped
    exact ⟨placed,same.trans ih.2⟩

structure InRange (c : Cursor) : Prop where
  width : c.width ≤ 63
  stop : Word.shiftLeft 1 c.width = .ok c.stop
  left : Word.sub c.stop c.index = .ok (c.stop - c.index)
  step : c.index ≠ c.stop → Word.add c.index 1 = .ok (c.index + 1)
  jump : ∀ count, Word.add c.index (min count (c.stop - c.index)) =
    .ok (c.index + min count (c.stop - c.index))
  bits : ∀ position < c.width, Word.shiftRight c.index position = .ok (c.index >>> position)

theorem Placed.inRange (placed : c.Placed) : c.InRange := by
  have stop := placed.stop
  have below := placed.stop_bound
  have within := placed.within
  have inWord : c.width < Word.size := Nat.lt_of_le_of_lt placed.narrow (by decide)
  have small : (1 <<< c.width) % Word.bound = c.stop := by
    rw [Nat.one_shiftLeft,← stop,Nat.mod_eq_of_lt below]
  refine ⟨placed.narrow,?_,if_pos within,?_,?_,?_⟩
  · rw [Word.shiftLeft,if_pos inWord,small]
  · intro unfinished
    exact if_pos (by omega)
  · intro count
    exact if_pos (by omega)
  · intro position member
    exact if_pos (Nat.lt_trans member inWord)

end Cursor

namespace Formula
variable {f : Formula}

theorem solve_faultless (f : Formula) (wanted : Interest) (cause : Fault) :
    (f.solve wanted).value ≠ .error (.fault cause) := by
  intro failed
  cases (solve_error_exact.mp failed).2

theorem search_narrow (narrow : f.numVariables ≤ Assignment.maxWidth) (wanted : Interest) :
    ∃ logged, f.search wanted = .ok logged := by
  have searched := f.search_value narrow wanted
  cases ran : f.search wanted with
  | error cause => simp [ran,Except.map] at searched
  | ok logged => exact ⟨logged,rfl⟩

theorem search_wide (wide : Assignment.maxWidth < f.numVariables) (wanted : Interest) :
    f.search wanted = .error .tooWide := by
  have started : Cursor.start f.support.size = .error .tooWide := Cursor.start_wide wide
  simp [search,started,bind,Except.bind]

theorem search_fault_exact (f : Formula) (wanted : Interest) :
    (∃ cause, f.search wanted = .error cause) ↔ Assignment.maxWidth < f.numVariables := by
  constructor
  · intro failing
    obtain ⟨cause,failed⟩ := failing
    by_contra narrow
    obtain ⟨logged,ran⟩ := search_narrow (Nat.not_lt.mp narrow) wanted
    rw [ran] at failed
    cases failed
  · intro wide
    exact ⟨_,search_wide wide wanted⟩

theorem isSatisfiedBy_fault_exact (f : Formula) (values : Assignment) :
    (∃ cause, f.isSatisfiedBy values = .error cause) ↔ values.length ≠ f.numVariables := by
  unfold isSatisfiedBy Interpretation.align
  by_cases aligned : f.support.size = values.length
  · simp [aligned,numVariables,Except.map]
  · simp [aligned,numVariables,Except.map,Ne.symm aligned]

theorem align_fits {values : Assignment} (fits : values.length = f.numVariables) :
    (∃ i, Interpretation.align f.support values = .ok i) ∧ ∃ m, Model.align f values = .ok m :=
  ⟨⟨_,dif_pos fits.symm⟩,⟨_,dif_pos fits.symm⟩⟩

theorem deciding_faultless :
    (∀ text wanted cause, (Dimacs.solveText text wanted).value ≠ .error (.fault cause)) ∧
    (∀ (f : Formula) wanted cause, (f.solve wanted).value ≠ .error (.fault cause)) ∧
    (∀ (f : Formula) wanted, (∃ cause, f.search wanted = .error cause) ↔ 63 < f.occurring.dedup.length) ∧
    (∀ (f : Formula) values,
      (∃ cause, f.isSatisfiedBy values = .error cause) ↔ values.length ≠ f.occurring.dedup.length) ∧
    ∀ (f : Formula) (c : Cursor), Cursor.Visited f.numVariables c → c.InRange ∧
      (∃ item after, c.next = .ok (item,after) ∧ ∀ values ∈ item,
        (∃ i, Interpretation.align f.support values = .ok i) ∧ ∃ m, Model.align f values = .ok m) ∧
      ∀ count, ∃ item after, c.nextAfter count = .ok (item,after) := by
  refine ⟨?_,solve_faultless,?_,?_,?_⟩
  · intro text wanted cause
    rw [Dimacs.solveText_value]
    cases Dimacs.parse text with
    | error reason => simp
    | ok parsed => exact solve_faultless parsed.usable wanted cause
  · intro f wanted
    rw [← numVariables_distinct]
    exact search_fault_exact f wanted
  · intro f values
    rw [← numVariables_distinct]
    exact isSatisfiedBy_fault_exact f values
  · intro f c visited
    obtain ⟨placed,width⟩ := Cursor.visited_placed visited
    refine ⟨placed.inRange,?_,?_⟩
    · obtain ⟨item,after,stepped,_,_,fits⟩ := Cursor.next_total placed
      refine ⟨item,after,stepped,?_⟩
      intro values given
      exact align_fits ((fits values given).trans width)
    · intro count
      obtain ⟨item,after,jumped,_⟩ := Cursor.next_total (placed.skipped count)
      exact ⟨item,after,(Cursor.nextAfter_exact placed count).trans jumped⟩

end Formula
end CnfSearch
