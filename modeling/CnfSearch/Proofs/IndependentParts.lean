import CnfSearch.Proofs.LeastValuation

-- A formula in two parts that share no variable, however these lie among each other.
namespace CnfSearch

def Support.override (s : Support) (v w : Valuation) : Valuation := fun x => if x ∈ s.list then v x else w x

namespace Formula
variable {f g : Formula} {v w : Valuation}

def append (f g : Formula) : Formula := ⟨f.clauses ++ g.clauses⟩

theorem holds_append : (f.append g).Holds v ↔ f.Holds v ∧ g.Holds v := List.forall_mem_append

theorem mem_support_append {x : Variable} : x ∈ (f.append g).support ↔ x ∈ f.support ∨ x ∈ g.support := by
  simp only [mem_support,occurring,append,List.flatMap_append,List.mem_append]

theorem support_append_comm : (f.append g).support = (g.append f).support := by
  apply Support.eq_of_mem
  intro x
  rw [mem_support_append,mem_support_append,or_comm]

theorem holds_append_comm : (f.append g).Holds v ↔ (g.append f).Holds v := by
  rw [holds_append,holds_append,and_comm]

theorem holds_override : f.Holds (f.support.override v w) ↔ f.Holds v :=
  holds_congr fun _ member => if_pos member

-- Above the variable that decides, both are the same.
theorem precedes_override (precedes : f.support.Precedes w v) :
    (f.append g).support.Precedes (f.support.override w v) v := by
  obtain ⟨x,member,low,high,above⟩ := precedes
  have inside : f.support.override w v x = w x := if_pos member
  refine ⟨x,mem_support_append.mpr (.inl member),inside.trans low,high,?_⟩
  intro y _ later
  by_cases own : y ∈ f.support.list
  · exact (if_pos own).trans (above y own later)
  · exact if_neg own

section Apart
variable (apart : ∀ x ∈ f.support, x ∉ g.support)
include apart

theorem holds_override_apart : g.Holds (f.support.override v w) ↔ g.Holds w :=
  holds_congr fun x member => if_neg fun inside => apart x inside member

theorem numVariables_append : (f.append g).numVariables = f.numVariables + g.numVariables := by
  have distinct : (f.support.list ++ g.support.list).Nodup :=
    f.support.nodup.append g.support.nodup fun x inF inG => apart x inF inG
  have parts : (f.append g).support.list.Perm (f.support.list ++ g.support.list) := by
    apply (List.perm_ext_iff_of_nodup (f.append g).support.nodup distinct).mpr
    intro x
    rw [List.mem_append]
    exact mem_support_append
  have size := parts.length_eq
  rwa [List.length_append] at size

theorem satisfiable_append : (f.append g).Satisfiable ↔ f.Satisfiable ∧ g.Satisfiable := by
  constructor
  · rintro ⟨v,holds⟩
    obtain ⟨inF,inG⟩ := holds_append.mp holds
    exact ⟨⟨v,inF⟩,⟨v,inG⟩⟩
  · rintro ⟨⟨v,inF⟩,⟨w,inG⟩⟩
    exact ⟨f.support.override v w,holds_append.mpr ⟨holds_override.mpr inF,(holds_override_apart apart).mpr inG⟩⟩

theorem least_append_left (least : (f.append g).Least v) : f.Least v := by
  obtain ⟨inF,inG⟩ := holds_append.mp least.holds
  refine ⟨inF,?_⟩
  intro w holds precedes
  have better : (f.append g).Holds (f.support.override w v) :=
    holds_append.mpr ⟨holds_override.mpr holds,(holds_override_apart apart).mpr inG⟩
  exact least.first _ better (precedes_override precedes)

theorem least_append_right (least : (f.append g).Least v) : g.Least v :=
  least_append_left (fun x inG inF => apart x inF inG)
    (least_congr support_append_comm (fun _ => holds_append_comm) least)

end Apart

theorem solve_append (f g : Formula) (wanted : Interest) (apart : ∀ x ∈ f.support, x ∉ g.support)
    (narrow : f.numVariables + g.numVariables ≤ 63) :
    ((∃ m, ((f.append g).solve wanted).value = .ok (.sat m)) ↔
      (∃ m, (f.solve wanted).value = .ok (.sat m)) ∧ ∃ m, (g.solve wanted).value = .ok (.sat m)) ∧
    (∀ x ∈ (f.append g).support, x ∈ f.support ∨ x ∈ g.support) ∧
    ∀ m left right, ((f.append g).solve wanted).value = .ok (.sat m) →
      (f.solve wanted).value = .ok (.sat left) → (g.solve wanted).value = .ok (.sat right) →
      Restricts f (f.append g) left.assignment m.assignment ∧
      Restricts g (f.append g) right.assignment m.assignment := by
  have whole : (f.append g).numVariables ≤ Assignment.maxWidth := by rwa [numVariables_append apart]
  have narrowF : f.numVariables ≤ Assignment.maxWidth := Nat.le_trans (Nat.le_add_right _ _) narrow
  have narrowG : g.numVariables ≤ Assignment.maxWidth := Nat.le_trans (Nat.le_add_left _ _) narrow
  refine ⟨?_,fun _ => mem_support_append.mp,?_⟩
  · rw [solve_finds_exact whole,solve_finds_exact narrowF,solve_finds_exact narrowG]
    exact satisfiable_append apart
  · intro m left right answered answeredF answeredG
    obtain ⟨v,least,values⟩ := solve_sat_least answered
    rw [values,least_values (least_append_left apart least) answeredF,
      least_values (least_append_right apart least) answeredG]
    constructor
    · exact ((restricts_exact fun _ inF => mem_support_append.mpr (.inl inF)).mpr rfl).2
    · exact ((restricts_exact fun _ inG => mem_support_append.mpr (.inr inG)).mpr rfl).2

-- The variables 2 and 9 of one part lie around the 5 of the other.
theorem solve_append_interleaved :
    let x2 : Variable := ⟨2,by decide,by decide⟩
    let x5 : Variable := ⟨5,by decide,by decide⟩
    let x9 : Variable := ⟨9,by decide,by decide⟩
    let f : Formula := ⟨[[⟨x9,true⟩,⟨x2,true⟩],[⟨x2,false⟩]]⟩
    let g : Formula := ⟨[[⟨x5,true⟩]]⟩
    (∀ x ∈ f.support, x ∉ g.support) ∧ f.numVariables + g.numVariables ≤ 63 ∧
    ∃ m left right, ((f.append g).solve .none).value = .ok (.sat m) ∧
      (f.solve .none).value = .ok (.sat left) ∧ (g.solve .none).value = .ok (.sat right) ∧
      m.assignment = [false,true,true] ∧ left.assignment = [false,true] ∧ right.assignment = [true] ∧
      Restricts f (f.append g) left.assignment m.assignment ∧
      Restricts g (f.append g) right.assignment m.assignment := by
  intro x2 x5 x9 f g
  have apart : ∀ x ∈ f.support.list, x ∉ g.support.list := by decide
  have narrow : f.numVariables + g.numVariables ≤ 63 := by decide
  have answered : ((f.append g).solve .none).value = .ok (.sat ((f.append g).modelAt 6)) :=
    (solve_sat_exact (by decide)).mpr ⟨6,by decide,rfl⟩
  have answeredF : (f.solve .none).value = .ok (.sat (f.modelAt 2)) :=
    (solve_sat_exact (by decide)).mpr ⟨2,by decide,rfl⟩
  have answeredG : (g.solve .none).value = .ok (.sat (g.modelAt 1)) :=
    (solve_sat_exact (by decide)).mpr ⟨1,by decide,rfl⟩
  obtain ⟨_,_,parts⟩ := solve_append f g .none apart narrow
  exact ⟨apart,narrow,_,_,_,answered,answeredF,answeredG,by decide,by decide,by decide,
    parts _ _ _ answered answeredF answeredG⟩

end Formula
end CnfSearch
