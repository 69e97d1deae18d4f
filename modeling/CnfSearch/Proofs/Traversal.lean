import Mathlib

namespace CnfSearch.Traversal
variable {α β ε : Type} {f : α → Except ε β} {xs more : List α} {ys : List β}

theorem mapM_cons_ok (first : f x = .ok y) : (x :: xs).mapM f = (xs.mapM f).map (y :: ·) := by
  rw [List.mapM_cons,first]
  cases xs.mapM f <;> rfl

theorem mapM_cons_error (first : f x = .error e) : (x :: xs).mapM f = .error e := by
  rw [List.mapM_cons,first]
  rfl

theorem mapM_append_ok (early : xs.mapM f = .ok ys) :
    (xs ++ more).mapM f = (more.mapM f).map (ys ++ ·) := by
  rw [List.mapM_append,early]
  cases more.mapM f <;> rfl

theorem mapM_append_error (early : xs.mapM f = .error e) : (xs ++ more).mapM f = .error e := by
  rw [List.mapM_append,early]
  rfl

theorem mapM_cons_split (ran : (x :: xs).mapM f = .ok ys) :
    ∃ y zs, f x = .ok y ∧ xs.mapM f = .ok zs ∧ ys = y :: zs := by
  cases first : f x with
  | error e => rw [mapM_cons_error first] at ran; cases ran
  | ok y =>
    rw [mapM_cons_ok first] at ran
    cases rest : xs.mapM f with
    | error e => rw [rest] at ran; cases ran
    | ok zs => rw [rest] at ran; exact ⟨y,zs,rfl,rfl,(Except.ok.inj ran).symm⟩

theorem mapM_append_split (ran : (xs ++ more).mapM f = .ok ys) :
    ∃ zs ws, xs.mapM f = .ok zs ∧ more.mapM f = .ok ws ∧ ys = zs ++ ws := by
  cases early : xs.mapM f with
  | error e => rw [mapM_append_error early] at ran; cases ran
  | ok zs =>
    rw [mapM_append_ok early] at ran
    cases late : more.mapM f with
    | error e => rw [late] at ran; cases ran
    | ok ws => rw [late] at ran; exact ⟨zs,ws,rfl,rfl,(Except.ok.inj ran).symm⟩

theorem mapM_ok_exact : xs.mapM f = .ok ys ↔ List.Forall₂ (fun x y => f x = .ok y) xs ys := by
  induction xs generalizing ys with
  | nil => cases ys <;> simp [pure,Except.pure]
  | cons x xs ih =>
    cases first : f x with
    | error e => cases ys <;> simp [mapM_cons_error first,first]
    | ok y =>
      rw [mapM_cons_ok first]
      cases rest : xs.mapM f with
      | error e => cases ys <;> simp [Except.map,← ih,first,rest]
      | ok zs => cases ys <;> simp [Except.map,← ih,first,rest]

theorem mapM_total (each : ∀ x ∈ xs, ∃ y, f x = .ok y) : ∃ ys, xs.mapM f = .ok ys := by
  induction xs with
  | nil => exact ⟨[],rfl⟩
  | cons x xs ih =>
    obtain ⟨y,first⟩ := each x List.mem_cons_self
    obtain ⟨ys,rest⟩ := ih fun z member => each z (List.mem_cons_of_mem _ member)
    exact ⟨y :: ys,by rw [mapM_cons_ok first,rest]; rfl⟩

theorem mapM_ok_each (ran : xs.mapM f = .ok ys) : ∀ x ∈ xs, ∃ y, f x = .ok y := by
  intro x member
  obtain ⟨before,after,rfl⟩ := List.append_of_mem member
  obtain ⟨_,_,_,late,_⟩ := mapM_append_split ran
  obtain ⟨y,_,each,_⟩ := mapM_cons_split late
  exact ⟨y,each⟩

theorem mapM_ok_mem (ran : xs.mapM f = .ok ys) : ∀ y ∈ ys, ∃ x ∈ xs, f x = .ok y := by
  obtain ⟨length,each⟩ := List.forall₂_iff_get.mp (mapM_ok_exact.mp ran)
  intro y member
  obtain ⟨i,bound,rfl⟩ := List.mem_iff_getElem.mp member
  exact ⟨xs[i],List.getElem_mem _,each i (length ▸ bound) bound⟩

-- It fails as its first failing element does, and what comes later is of no account.
theorem mapM_error_exact : xs.mapM f = .error e ↔
    ∃ before x after, xs = before ++ x :: after ∧ (∀ y ∈ before, ∃ z, f y = .ok z) ∧ f x = .error e := by
  constructor
  · intro failed
    induction xs with
    | nil => cases failed
    | cons x xs ih =>
      cases first : f x with
      | error other =>
        rw [mapM_cons_error first] at failed
        cases failed
        exact ⟨[],x,xs,rfl,by simp,first⟩
      | ok y =>
        rw [mapM_cons_ok first] at failed
        cases rest : xs.mapM f with
        | ok zs => rw [rest] at failed; cases failed
        | error other =>
          rw [rest] at failed
          cases failed
          obtain ⟨before,bad,after,rfl,good,failing⟩ := ih rest
          refine ⟨x :: before,bad,after,rfl,?_,failing⟩
          intro z member
          rcases List.mem_cons.mp member with rfl | later
          · exact ⟨y,first⟩
          · exact good z later
  · rintro ⟨before,x,after,rfl,good,failing⟩
    obtain ⟨zs,early⟩ := mapM_total good
    rw [mapM_append_ok early,mapM_cons_error failing]
    rfl

end CnfSearch.Traversal
