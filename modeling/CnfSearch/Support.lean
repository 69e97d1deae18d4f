import CnfSearch.Literal

namespace CnfSearch

-- The order gives every variable its position, where an assignment keeps its value.
structure Support where
  list : List Variable
  ascending : list.Pairwise (·.id < ·.id)
  deriving DecidableEq

namespace Support

def insertInto (x : Variable) : List Variable → List Variable
  | [] => [x]
  | y :: rest =>
    if x.id < y.id then x :: y :: rest
    else if x.id = y.id then y :: rest
    else y :: insertInto x rest

theorem mem_insertInto (x y : Variable) (list : List Variable) :
    y ∈ insertInto x list ↔ y = x ∨ y ∈ list := by
  induction list with
  | nil => simp [insertInto]
  | cons z rest ih =>
    unfold insertInto
    split
    · simp
    · split
      · rename_i same
        have equal := Variable.eq_of_id same
        subst equal
        simp
      · simp only [List.mem_cons,ih]
        exact or_left_comm

theorem insertInto_ascending (x : Variable) (list : List Variable)
    (ascending : list.Pairwise (·.id < ·.id)) :
    (insertInto x list).Pairwise (·.id < ·.id) := by
  induction list with
  | nil => simp [insertInto]
  | cons y rest ih =>
    obtain ⟨above,tail⟩ := List.pairwise_cons.mp ascending
    unfold insertInto
    split
    · rename_i less
      refine List.pairwise_cons.mpr ⟨?_,ascending⟩
      intro z member
      rcases List.mem_cons.mp member with rfl | old
      · exact less
      · exact Nat.lt_trans less (above z old)
    · split
      · exact ascending
      · refine List.pairwise_cons.mpr ⟨?_,ih tail⟩
        intro z member
        rcases (mem_insertInto _ _ _).mp member with rfl | old
        · omega
        · exact above z old

def empty : Support := ⟨[],.nil⟩

def insert (s : Support) (x : Variable) : Support :=
  ⟨insertInto x s.list,insertInto_ascending x s.list s.ascending⟩

def ofList (xs : List Variable) : Support := xs.foldl insert empty

def ofClauses (clauses : List Clause) : Support :=
  ofList (clauses.flatMap (·.map Literal.var))

def size (s : Support) : Nat := s.list.length

def position? (s : Support) (x : Variable) : Option Nat := s.list.idxOf? x

instance : Membership Variable Support := ⟨fun s x => x ∈ s.list⟩

theorem mem_list {s : Support} {x : Variable} : x ∈ s ↔ x ∈ s.list := Iff.rfl

@[simp] theorem mem_insert {s : Support} {x y : Variable} : y ∈ s.insert x ↔ y = x ∨ y ∈ s :=
  mem_insertInto x y s.list

theorem not_mem_empty (x : Variable) : ¬ x ∈ empty := by simp [empty,mem_list]

theorem mem_foldl_insert (xs : List Variable) (s : Support) (y : Variable) :
    y ∈ xs.foldl insert s ↔ y ∈ s ∨ y ∈ xs := by
  induction xs generalizing s with
  | nil => simp
  | cons x rest ih =>
    simp only [List.foldl_cons,ih,mem_insert,List.mem_cons]
    constructor
    · rintro ((rfl | old) | later)
      · exact .inr (.inl rfl)
      · exact .inl old
      · exact .inr (.inr later)
    · rintro (old | rfl | later)
      · exact .inl (.inr old)
      · exact .inl (.inl rfl)
      · exact .inr later

theorem mem_ofList {xs : List Variable} {y : Variable} : y ∈ ofList xs ↔ y ∈ xs := by
  simp [ofList,mem_foldl_insert,not_mem_empty]

theorem mem_ofClauses {clauses : List Clause} {y : Variable} :
    y ∈ ofClauses clauses ↔ ∃ c ∈ clauses, ∃ l ∈ c, l.var = y := by
  simp [ofClauses,mem_ofList]

theorem position?_exact {s : Support} {x : Variable} {i : Nat} :
    s.position? x = some i ↔ s.list[i]? = some x := by
  unfold position?
  constructor
  · intro found
    obtain ⟨bound,same,_⟩ := List.idxOf?_eq_some_iff.mp found
    rw [List.getElem?_eq_getElem bound]
    simpa using same
  · intro found
    obtain ⟨bound,same⟩ := List.getElem?_eq_some_iff.mp found
    refine List.idxOf?_eq_some_iff.mpr ⟨bound,by simpa using same,?_⟩
    intro j less
    have distinct := List.pairwise_iff_getElem.mp s.ascending j i (by omega) bound less
    intro equal
    have equal : s.list[j] = x := by simpa using equal
    rw [equal,same] at distinct
    exact Nat.lt_irrefl _ distinct

end Support
end CnfSearch
