import CnfSearch.Proofs.Answers
import CnfSearch.Proofs.NamedValues

-- New names move the variables to other positions, so nothing is compared by position.
namespace CnfSearch

structure Relabeling where
  name : Variable → Variable
  inverted : Variable → Bool

def Literal.relabel (t : Relabeling) (l : Literal) : Literal := ⟨t.name l.var,l.positive ^^ t.inverted l.var⟩
def Clause.relabel (t : Relabeling) (c : Clause) : Clause := c.map (Literal.relabel t)
def Formula.relabel (t : Relabeling) (f : Formula) : Formula := ⟨f.clauses.map (Clause.relabel t)⟩

namespace Relabeling

-- No two variables of a formula get one name. Other variables may get any.
def Separates (t : Relabeling) (f : Formula) : Prop :=
  ∀ x ∈ f.support, ∀ y ∈ f.support, t.name x = t.name y → x = y

-- The names are in the order of the variables, and every sign stays.
structure Ascending (t : Relabeling) (f : Formula) : Prop where
  names : ∀ x ∈ f.support, ∀ y ∈ f.support, x.id < y.id → (t.name x).id < (t.name y).id
  signs : ∀ x ∈ f.support, t.inverted x = false

-- What the first assignment says of a variable, the second says of its name, inverted where
-- the sign changes.
def Carries (t : Relabeling) (f : Formula) (a b : Assignment) : Prop :=
  ∀ x ∈ f.support, ∃ value, f.support.valueOf? a x = some value ∧
    (f.relabel t).support.valueOf? b (t.name x) = some (value ^^ t.inverted x)

-- The variable that bears a name is looked for in the support.
def carry (t : Relabeling) (s : Support) (v : Valuation) : Valuation := fun name =>
  match s.list.find? (t.name · = name) with
  | some x => v x ^^ t.inverted x
  | none => false

end Relabeling

variable {t : Relabeling} {f : Formula} {v w : Valuation}

section Truth

theorem Literal.holds_relabel {l : Literal} (carried : w (t.name l.var) = (v l.var ^^ t.inverted l.var)) :
    (l.relabel t).Holds w ↔ l.Holds v := by
  simp [Literal.Holds,Literal.relabel,carried]

theorem Clause.holds_relabel {c : Clause}
    (carried : ∀ l ∈ c, w (t.name l.var) = (v l.var ^^ t.inverted l.var)) :
    Clause.Holds w (Clause.relabel t c) ↔ Clause.Holds v c := by
  simp only [Clause.Holds,Clause.relabel,List.mem_map,exists_exists_and_eq_and]
  apply exists_congr
  intro l
  apply and_congr_right
  intro member
  exact Literal.holds_relabel (carried l member)

theorem Formula.holds_relabel (carried : ∀ x ∈ f.support, w (t.name x) = (v x ^^ t.inverted x)) :
    (f.relabel t).Holds w ↔ f.Holds v := by
  simp only [Formula.Holds,Formula.relabel,List.forall_mem_map]
  apply forall₂_congr
  intro c inFormula
  apply Clause.holds_relabel
  intro l inClause
  exact carried _ (Support.mem_ofClauses.mpr ⟨c,inFormula,l,inClause,rfl⟩)

end Truth

namespace Formula

theorem occurring_relabel (f : Formula) (t : Relabeling) : (f.relabel t).occurring = f.occurring.map t.name := by
  simp [occurring,relabel,Clause.relabel,Literal.relabel,List.flatMap_map,List.map_flatMap,Function.comp_def]

theorem mem_support_relabel {y : Variable} : y ∈ (f.relabel t).support ↔ ∃ x ∈ f.support, t.name x = y := by
  simp only [mem_support,occurring_relabel,List.mem_map]

theorem support_relabel (separates : t.Separates f) :
    (f.relabel t).support.list.Perm (f.support.list.map t.name) := by
  have distinct : (f.support.list.map t.name).Nodup := f.support.nodup.map_on separates
  apply (List.perm_ext_iff_of_nodup (f.relabel t).support.nodup distinct).mpr
  intro y
  rw [List.mem_map]
  exact mem_support_relabel

theorem numVariables_relabel (separates : t.Separates f) : (f.relabel t).numVariables = f.numVariables := by
  have size := (support_relabel separates).length_eq
  rwa [List.length_map] at size

theorem support_relabel_ascending (ascending : t.Ascending f) :
    (f.relabel t).support.list = f.support.list.map t.name := by
  have ordered : (f.support.list.map t.name).Pairwise (·.id < ·.id) :=
    List.pairwise_map.mpr (f.support.ascending.imp_of_mem fun inX inY => ascending.names _ inX _ inY)
  have same : (f.relabel t).support = ⟨_,ordered⟩ := by
    apply Support.eq_of_mem
    intro y
    rw [mem_support_relabel]
    exact List.mem_map.symm
  rw [same]

end Formula

namespace Relabeling
open Formula

theorem carry_name (separates : t.Separates f) {x : Variable} (member : x ∈ f.support) :
    t.carry f.support v (t.name x) = (v x ^^ t.inverted x) := by
  unfold carry
  cases found : f.support.list.find? (t.name · = t.name x) with
  | none => simpa using List.find?_eq_none.mp found x member
  | some y =>
    have named : t.name y = t.name x := by simpa using List.find?_some found
    rw [separates y (List.mem_of_find?_eq_some found) x member named]

theorem carries_exact (separates : t.Separates f) {b : Assignment} :
    (b.length = f.numVariables ∧ t.Carries f (f.support.list.map v) b) ↔
      b = (f.relabel t).support.list.map (t.carry f.support v) := by
  rw [← Support.values_exact,← numVariables_relabel separates]
  apply and_congr_right'
  constructor
  · intro carries y member
    obtain ⟨x,inside,rfl⟩ := mem_support_relabel.mp member
    obtain ⟨value,before,after⟩ := carries x inside
    rw [Support.valueOf?_map v inside] at before
    cases before
    rw [carry_name separates inside]
    exact after
  · intro values x member
    have after := values _ (mem_support_relabel.mpr ⟨x,member,rfl⟩)
    rw [carry_name separates member] at after
    exact ⟨v x,Support.valueOf?_map v member,after⟩

theorem carries_existsUnique (separates : t.Separates f) {a : Assignment} (fits : a.length = f.numVariables) :
    ∃! b : Assignment, b.length = f.numVariables ∧ t.Carries f a b := by
  obtain ⟨v,rfl⟩ := Support.map_of_fits fits
  exact ⟨_,(carries_exact separates).mpr rfl,fun _ => (carries_exact separates).mp⟩

theorem carries_isSatisfiedBy (separates : t.Separates f) {a b : Assignment} (fitsA : a.length = f.numVariables)
    (fitsB : b.length = f.numVariables) (carries : t.Carries f a b) :
    (f.relabel t).isSatisfiedBy b = f.isSatisfiedBy a := by
  obtain ⟨v,rfl⟩ := Support.map_of_fits fitsA
  obtain rfl := (carries_exact separates).mp ⟨fitsB,carries⟩
  exact isSatisfiedBy_alike (holds_relabel fun _ => carry_name separates)

end Relabeling

namespace Formula
open Relabeling

theorem satisfiable_relabel (separates : t.Separates f) : (f.relabel t).Satisfiable ↔ f.Satisfiable := by
  constructor
  · rintro ⟨w,holds⟩
    exact ⟨fun x => w (t.name x) ^^ t.inverted x,(holds_relabel (by simp)).mp holds⟩
  · rintro ⟨v,holds⟩
    exact ⟨t.carry f.support v,(holds_relabel fun _ => carry_name separates).mpr holds⟩

theorem isSatisfiedBy_ascending (ascending : t.Ascending f) (separates : t.Separates f) {a : Assignment}
    (fits : a.length = f.numVariables) : (f.relabel t).isSatisfiedBy a = f.isSatisfiedBy a := by
  obtain ⟨v,rfl⟩ := Support.map_of_fits fits
  have unmoved : f.support.list.map v = (f.relabel t).support.list.map (t.carry f.support v) := by
    rw [support_relabel_ascending ascending,List.map_map]
    apply Support.map_exact.mpr
    intro x member
    rw [Function.comp_apply,carry_name separates member,ascending.signs x member,Bool.xor_false]
  exact carries_isSatisfiedBy separates fits fits ((carries_exact separates).mpr unmoved).2

theorem solve_relabel (f : Formula) (t : Relabeling) (wanted : Interest) (separates : t.Separates f) :
    (f.relabel t).numVariables = f.numVariables ∧
    (∀ a : Assignment, a.length = f.numVariables →
      ∃! b : Assignment, b.length = f.numVariables ∧ t.Carries f a b) ∧
    (∀ a b : Assignment, a.length = f.numVariables → b.length = f.numVariables → t.Carries f a b →
      (f.relabel t).isSatisfiedBy b = f.isSatisfiedBy a) ∧
    ((f.relabel t).solve wanted).value.map Verdict.isSat = (f.solve wanted).value.map Verdict.isSat ∧
    (t.Ascending f →
      ((f.relabel t).solve wanted).value.map Verdict.witness? = (f.solve wanted).value.map Verdict.witness?) := by
  have size := numVariables_relabel separates
  refine ⟨size,fun _ => carries_existsUnique separates,fun _ _ => carries_isSatisfiedBy separates,?_,?_⟩
  · exact solve_isSat_congr size (satisfiable_relabel separates) wanted
  · intro ascending
    apply solve_witness?_congr size
    intro a fits
    exact isSatisfiedBy_ascending ascending separates (fits.trans size)

-- Variable 8 moves to the front with its sign changed, and variable 2 to the last name.
theorem solve_relabel_sparse :
    let x2 : Variable := ⟨2,by decide,by decide⟩
    let x3 : Variable := ⟨3,by decide,by decide⟩
    let x8 : Variable := ⟨8,by decide,by decide⟩
    let x7 : Variable := ⟨7,by decide,by decide⟩
    let x900 : Variable := ⟨900,by decide,by decide⟩
    let last : Variable := ⟨4294967295,by decide,by decide⟩
    let f : Formula := ⟨[[⟨x3,true⟩,⟨x8,false⟩],[⟨x8,true⟩,⟨x2,true⟩]]⟩
    let t : Relabeling := ⟨fun x => if x = x8 then x7 else if x = x3 then x900 else last,fun x => x == x8⟩
    let u : Relabeling := ⟨fun x => if x = x8 then last else if x = x3 then x900 else x7,fun _ => false⟩
    t.Separates f ∧ u.Separates f ∧ u.Ascending f ∧ t.Carries f [true,false,false] [true,false,true] ∧
    (f.relabel t).isSatisfiedBy [true,false,true] = .ok true ∧
    ((f.relabel t).solve .none).value.map Verdict.isSat = (f.solve .none).value.map Verdict.isSat ∧
    ((f.relabel u).solve .none).value.map Verdict.witness? = .ok (some [true,false,false]) := by
  intro x2 x3 x8 x7 x900 last f t u
  have separatesT : ∀ x ∈ f.support.list, ∀ y ∈ f.support.list, t.name x = t.name y → x = y := by decide
  have separatesU : ∀ x ∈ f.support.list, ∀ y ∈ f.support.list, u.name x = u.name y → x = y := by decide
  have ascending : u.Ascending f := by
    constructor
    · show ∀ x ∈ f.support.list, ∀ y ∈ f.support.list, x.id < y.id → (u.name x).id < (u.name y).id
      decide
    · intro x _
      rfl
  have carries : ∀ x ∈ f.support.list, ∃ value, f.support.valueOf? [true,false,false] x = some value ∧
      (f.relabel t).support.valueOf? [true,false,true] (t.name x) = some (value ^^ t.inverted x) := by decide
  have satisfied : f.isSatisfiedBy [true,false,false] = .ok true := by decide
  have first : (f.solve .none).value.map Verdict.witness? = .ok (some [true,false,false]) := by
    rw [solve_map]
    decide
  obtain ⟨_,_,same,verdict,_⟩ := solve_relabel f t .none separatesT
  obtain ⟨_,_,_,_,witness⟩ := solve_relabel f u .none separatesU
  refine ⟨separatesT,separatesU,ascending,carries,?_,verdict,(witness ascending).trans first⟩
  rw [same [true,false,false] [true,false,true] (by decide) (by decide) carries,satisfied]

end Formula
end CnfSearch
