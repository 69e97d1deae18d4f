import CnfSearch.Proofs.Answers
import CnfSearch.Proofs.NamedValues

-- Which valuation the witness of a formula is, without numbers and positions.
namespace CnfSearch

namespace Support
variable {s : Support} {v w : Valuation}

-- Of the variables where the two differ the last is false in the first and true in the second.
def Precedes (s : Support) (v w : Valuation) : Prop :=
  ∃ x ∈ s, v x = false ∧ w x = true ∧ ∀ y ∈ s, x.id < y.id → v y = w y

theorem precedes_exact : s.Precedes v w ↔ Assignment.Precedes (s.list.map v) (s.list.map w) := by
  constructor
  · rintro ⟨x,member,low,high,above⟩
    obtain ⟨i,place⟩ := List.getElem?_of_mem (mem_list.mp member)
    refine ⟨i,by simp [place,low],by simp [place,high],?_⟩
    intro j later
    rw [List.getElem?_map,List.getElem?_map]
    cases found : s.list[j]? with
    | none => rfl
    | some y =>
      have less := (position_lt_exact place found).mp later
      simp [above y (List.mem_of_getElem? found) less]
  · rintro ⟨i,low,high,above⟩
    rw [List.getElem?_map] at low high
    obtain ⟨x,place,low⟩ := Option.map_eq_some_iff.mp low
    rw [place] at high
    refine ⟨x,List.mem_of_getElem? place,low,Option.some.inj high,?_⟩
    intro y member less
    obtain ⟨j,found⟩ := List.getElem?_of_mem (mem_list.mp member)
    have later := above j ((position_lt_exact place found).mpr less)
    simpa [found] using later

end Support

namespace Formula
variable {f g : Formula} {v : Valuation}

structure Least (f : Formula) (v : Valuation) : Prop where
  holds : f.Holds v
  first : ∀ w, f.Holds w → ¬ f.support.Precedes w v

theorem least_congr (support : f.support = g.support) (alike : ∀ w, f.Holds w ↔ g.Holds w)
    (least : f.Least v) : g.Least v := by
  refine ⟨(alike v).mp least.holds,?_⟩
  intro w holds
  rw [← support]
  exact least.first w ((alike w).mpr holds)

theorem solve_sat_least (answered : (f.solve wanted).value = .ok (.sat m)) :
    ∃ v, f.Least v ∧ m.assignment = f.support.list.map v := by
  obtain ⟨_,satisfied,_⟩ := solve_witness (solve_narrow answered) answered
  obtain ⟨v,values⟩ := Support.map_of_fits (isSatisfiedBy_length satisfied)
  refine ⟨v,⟨?_,?_⟩,values.symm⟩
  · rw [← isSatisfiedBy_map,values]
    exact satisfied
  · intro w holds precedes
    have less := Assignment.toIndex_lt_of_precedes (Support.precedes_exact.mp precedes)
    have least := solve_least answered (isSatisfiedBy_map.mpr holds)
    rw [← values] at least
    exact absurd less (Nat.not_lt.mpr least)

theorem least_values (least : f.Least v) (answered : (f.solve wanted).value = .ok (.sat m)) :
    m.assignment = f.support.list.map v := by
  obtain ⟨_,_,first⟩ := solve_witness (solve_narrow answered) answered
  obtain ⟨u,smallest,values⟩ := solve_sat_least answered
  by_contra different
  have precedes := first _ (isSatisfiedBy_map.mpr least.holds) (Ne.symm different)
  rw [values] at precedes
  exact least.first u smallest.holds (Support.precedes_exact.mpr precedes)

end Formula
end CnfSearch
