import CnfSearch.Proofs.PartialEvaluation

-- Through which support an assignment was placed does not matter to values asked for by
-- variable.
namespace CnfSearch

namespace Support
variable {s t : Support} {v w : Valuation} {x y : Variable} {a : Assignment} {i j : Nat}

def valueOf? (s : Support) (a : Assignment) (x : Variable) : Option Bool :=
  (s.position? x).bind (a[·]?)

-- A support has no say in the order of its variables, so its members determine it.
theorem eq_of_mem (same : ∀ x, x ∈ s ↔ x ∈ t) : s = t := by
  have lists : s.list = t.list := by
    apply List.Perm.eq_of_pairwise _ s.ascending t.ascending
    · exact (List.perm_ext_iff_of_nodup s.nodup t.nodup).mpr same
    · intro x y _ _ less greater
      exact absurd (Nat.lt_trans less greater) (Nat.lt_irrefl _)
  cases s
  cases t
  cases lists
  rfl

theorem position_lt_exact (first : s.list[i]? = some x) (second : s.list[j]? = some y) : i < j ↔ x.id < y.id := by
  have ordered := List.pairwise_iff_getElem.mp s.ascending
  obtain ⟨inI,rfl⟩ := List.getElem?_eq_some_iff.mp first
  obtain ⟨inJ,rfl⟩ := List.getElem?_eq_some_iff.mp second
  rcases Nat.lt_trichotomy i j with before | same | after
  · exact iff_of_true before (ordered i j inI inJ before)
  · subst same
    simp
  · exact iff_of_false (Nat.lt_asymm after) (Nat.lt_asymm (ordered j i inJ inI after))

theorem map_exact : s.list.map v = s.list.map w ↔ ∀ x ∈ s, v x = w x := List.map_inj_left

theorem valueOf?_map (v : Valuation) (member : x ∈ s) : s.valueOf? (s.list.map v) x = some (v x) := by
  obtain ⟨value,found⟩ := (Interpretation.ofValuation s v).value?_of_mem member
  rw [Interpretation.ofValuation_agrees s v x value found]
  exact found

theorem map_of_fits (fits : a.length = s.size) : ∃ v : Valuation, s.list.map v = a := by
  let i : Interpretation := ⟨s,a,fits.symm⟩
  exact ⟨i.valuation,Interpretation.agrees_exact.mp i.agrees_valuation⟩

theorem values_exact : (a.length = s.size ∧ ∀ x ∈ s, s.valueOf? a x = some (v x)) ↔ a = s.list.map v := by
  constructor
  · rintro ⟨fits,values⟩
    obtain ⟨w,rfl⟩ := map_of_fits fits
    apply map_exact.mpr
    intro x member
    have value := values x member
    rw [valueOf?_map w member] at value
    exact Option.some.inj value
  · rintro rfl
    exact ⟨List.length_map _,fun _ => valueOf?_map v⟩

end Support

namespace Formula
variable {f g : Formula} {v w : Valuation} {a b : Assignment}

theorem isSatisfiedBy_map : f.isSatisfiedBy (f.support.list.map v) = .ok true ↔ f.Holds v := by
  rw [isSatisfiedBy_ofValuation,Except.ok.injEq]
  exact eval_exact (Interpretation.ofValuation_agrees f.support v) fun _ member => member

theorem holds_congr (same : ∀ x ∈ f.support, v x = w x) : f.Holds v ↔ f.Holds w := by
  rw [← isSatisfiedBy_map,← isSatisfiedBy_map,Support.map_exact.mpr same]

theorem isSatisfiedBy_alike (alike : f.Holds v ↔ g.Holds w) :
    f.isSatisfiedBy (f.support.list.map v) = g.isSatisfiedBy (g.support.list.map w) := by
  rw [← isSatisfiedBy_map,← isSatisfiedBy_map] at alike
  rw [isSatisfiedBy_ofValuation,isSatisfiedBy_ofValuation] at alike ⊢
  rw [Except.ok.injEq,Except.ok.injEq,← Bool.eq_iff_iff] at alike
  rw [alike]

-- The first assignment says of each variable of the part what the second says of it in the
-- whole.
def Restricts (part whole : Formula) (a b : Assignment) : Prop :=
  ∀ x ∈ part.support, ∃ value, part.support.valueOf? a x = some value ∧ whole.support.valueOf? b x = some value

theorem restricts_self (support : f.support = g.support) (fits : a.length = f.numVariables) :
    Restricts f g a a := by
  obtain ⟨v,rfl⟩ := Support.map_of_fits fits
  intro x member
  have value := Support.valueOf?_map v member
  exact ⟨v x,value,by rwa [← support]⟩

section Covered
variable (covered : ∀ x ∈ f.support, x ∈ g.support)
include covered

theorem numVariables_covered : f.numVariables ≤ g.numVariables := (f.support.nodup.subperm covered).length_le

theorem restricts_exact :
    (a.length = f.numVariables ∧ Restricts f g a (g.support.list.map v)) ↔ a = f.support.list.map v := by
  rw [← Support.values_exact]
  apply and_congr_right'
  apply forall₂_congr
  intro x member
  simp [Support.valueOf?_map v (covered x member)]

theorem restricts_existsUnique (fits : b.length = g.numVariables) :
    ∃! a : Assignment, a.length = f.numVariables ∧ Restricts f g a b := by
  obtain ⟨v,rfl⟩ := Support.map_of_fits fits
  exact ⟨_,(restricts_exact covered).mpr rfl,fun _ => (restricts_exact covered).mp⟩

end Covered

end Formula
end CnfSearch
