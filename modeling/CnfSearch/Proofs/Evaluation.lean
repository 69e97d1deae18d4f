import CnfSearch.Interpretation
import Mathlib

namespace CnfSearch

namespace Support

theorem position?_of_mem {s : Support} {x : Variable} (member : x ∈ s) :
    ∃ i, s.position? x = some i ∧ i < s.size := by
  obtain ⟨i,bound,same⟩ := List.mem_iff_getElem.mp (mem_list.mp member)
  refine ⟨i,position?_exact.mpr ?_,bound⟩
  rw [List.getElem?_eq_getElem bound,same]

theorem nodup (s : Support) : s.list.Nodup := by
  apply s.ascending.imp
  intro x y less same
  rw [same] at less
  exact Nat.lt_irrefl _ less

end Support

namespace Interpretation

theorem value?_exact {i : Interpretation} : i.value? x = some value ↔
    ∃ position, i.support.position? x = some position ∧ i.values[position]? = some value :=
  Option.bind_eq_some_iff

theorem value?_of_mem (i : Interpretation) {x : Variable} (member : x ∈ i.support) :
    ∃ value, i.value? x = some value := by
  obtain ⟨position,found,bound⟩ := Support.position?_of_mem member
  rw [i.aligned] at bound
  exact ⟨i.values[position],by simp [value?,found,bound]⟩

-- Of variables that the interpretation does not cover the valuation may say anything.
def Agrees (i : Interpretation) (v : Valuation) : Prop :=
  ∀ x value, i.value? x = some value → v x = value

theorem agrees_exact {i : Interpretation} {v : Valuation} : i.Agrees v ↔ i.support.list.map v = i.values := by
  constructor
  · intro agrees
    apply List.ext_getElem
    · simpa [Support.size] using i.aligned
    · intro position inList inValues
      have listed : position < i.support.list.length := by simpa using inList
      have place : i.support.position? i.support.list[position] = some position :=
        Support.position?_exact.mpr (List.getElem?_eq_getElem listed)
      rw [List.getElem_map]
      exact agrees _ _ (value?_exact.mpr ⟨position,place,List.getElem?_eq_getElem inValues⟩)
  · intro same x value found
    obtain ⟨position,place,atPosition⟩ := value?_exact.mp found
    rw [← same,List.getElem?_map,Support.position?_exact.mp place] at atPosition
    exact Option.some.inj atPosition

def valuation (i : Interpretation) : Valuation := fun x => (i.value? x).getD false

theorem agrees_valuation (i : Interpretation) : i.Agrees i.valuation := by
  intro x value found
  simp [valuation,found]

def ofValuation (support : Support) (v : Valuation) : Interpretation :=
  ⟨support,support.list.map v,by simp [Support.size]⟩

theorem ofValuation_agrees (support : Support) (v : Valuation) : (ofValuation support v).Agrees v :=
  agrees_exact.mpr rfl

theorem align_exact {support : Support} {values : Assignment} {i : Interpretation} :
    align support values = .ok i ↔ i.support = support ∧ i.values = values := by
  unfold align
  constructor
  · intro built
    split at built
    · cases built; exact ⟨rfl,rfl⟩
    · cases built
  · rintro ⟨rfl,rfl⟩
    rw [dif_pos i.aligned]

end Interpretation

section Agreement
variable {i : Interpretation} {v : Valuation}

theorem Literal.eval_exact (agrees : i.Agrees v) {l : Literal} (covered : l.var ∈ i.support) :
    l.eval i = true ↔ l.Holds v := by
  obtain ⟨value,found⟩ := i.value?_of_mem covered
  simp [Literal.eval,Literal.Holds,found,agrees _ _ found]

theorem Clause.eval_exact (agrees : i.Agrees v) {c : Clause} (covered : ∀ l ∈ c, l.var ∈ i.support) :
    Clause.eval i c = true ↔ Clause.Holds v c := by
  unfold Clause.eval Clause.Holds
  rw [List.any_eq_true]
  apply exists_congr
  intro l
  apply and_congr_right
  intro member
  exact Literal.eval_exact agrees (covered l member)

theorem Formula.eval_exact (agrees : i.Agrees v) {f : Formula} (covered : ∀ x ∈ f.support, x ∈ i.support) :
    f.eval i = true ↔ f.Holds v := by
  unfold Formula.eval Formula.Holds
  rw [List.all_eq_true]
  apply forall₂_congr
  intro c inFormula
  apply Clause.eval_exact agrees
  intro l inClause
  exact covered _ (Support.mem_ofClauses.mpr ⟨c,inFormula,l,inClause,rfl⟩)

end Agreement

namespace Formula

def occurring (f : Formula) : List Variable := f.clauses.flatMap (·.map Literal.var)

theorem mem_support {f : Formula} {x : Variable} : x ∈ f.support ↔ x ∈ f.occurring := Support.mem_ofList

theorem numVariables_distinct (f : Formula) : f.numVariables = f.occurring.dedup.length := by
  apply List.Perm.length_eq
  apply (List.perm_ext_iff_of_nodup f.support.nodup f.occurring.nodup_dedup).mpr
  intro x
  rw [List.mem_dedup,← mem_support,Support.mem_list]

theorem isSatisfiedBy_exact {f : Formula} {values : Assignment} :
    f.isSatisfiedBy values = .ok true ↔
      ∃ i : Interpretation, i.support = f.support ∧ i.values = values ∧ f.eval i = true := by
  unfold isSatisfiedBy
  constructor
  · intro satisfied
    cases built : Interpretation.align f.support values with
    | error fault => simp [built,Except.map] at satisfied
    | ok i =>
      obtain ⟨support,same⟩ := Interpretation.align_exact.mp built
      exact ⟨i,support,same,by simpa [built,Except.map] using satisfied⟩
  · rintro ⟨i,support,same,satisfied⟩
    rw [Interpretation.align_exact.mpr ⟨support,same⟩]
    simp [Except.map,satisfied]

-- Positions and the order of variables do not matter to satisfiability.
theorem satisfiable_exact {f : Formula} :
    f.Satisfiable ↔ ∃ values, f.isSatisfiedBy values = .ok true := by
  constructor
  · rintro ⟨v,holds⟩
    have agrees := Interpretation.ofValuation_agrees f.support v
    have satisfied := (eval_exact agrees fun _ member => member).mpr holds
    exact ⟨_,isSatisfiedBy_exact.mpr ⟨_,rfl,rfl,satisfied⟩⟩
  · rintro ⟨values,satisfied⟩
    obtain ⟨i,support,_,satisfied⟩ := isSatisfiedBy_exact.mp satisfied
    refine ⟨i.valuation,(eval_exact i.agrees_valuation ?_).mp satisfied⟩
    intro x member
    rwa [support]

end Formula
end CnfSearch
