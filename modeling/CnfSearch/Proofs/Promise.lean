import CnfSearch.Proofs.Rows

namespace CnfSearch.Dimacs

-- A well-formed problem line: the format, two numbers, and anything after them.
def Promises (row : List Char) (d : Declaration) : Prop :=
  ∃ first second trailing, Text.tokens row = ['p'] :: ['c','n','f'] :: first :: second :: trailing ∧
    Text.Numeral.natural first = .ok d.numVariables ∧ Text.Numeral.natural second = .ok d.numClauses

-- The first row that promises anything promises these counts.
def PromisedFirst (rows : List (List Char)) (d : Declaration) : Prop :=
  ∃ before row after, rows = before ++ row :: after ∧ (∀ earlier ∈ before, ∀ e, ¬ Promises earlier e) ∧ Promises row d

theorem Declaration.read?_exact : (Declaration.read? fields).map Prod.fst = some d ↔
    ∃ first second trailing, fields = ['c','n','f'] :: first :: second :: trailing ∧
      Text.Numeral.natural first = .ok d.numVariables ∧ Text.Numeral.natural second = .ok d.numClauses := by
  constructor
  · intro found
    unfold read? at found
    split at found
    · rename_i format first second trailing
      split at found
      · rename_i cnf
        split at found
        · rename_i numVariables numClauses variablesRead clausesRead
          cases Option.some.inj found
          exact ⟨first,second,trailing,by rw [cnf],variablesRead,clausesRead⟩
        · cases found
      · cases found
    · cases found
  · rintro ⟨first,second,trailing,rfl,variablesRead,clausesRead⟩
    simp [read?,variablesRead,clausesRead]

theorem promised?_exact (number : Nat) (row : List Char) :
    NumberedLine.promised? ⟨number,row⟩ = some d ↔ Promises row d := by
  unfold NumberedLine.promised? NumberedLine.tokens Promises
  cases tokens : Text.tokens row with
  | nil => simp
  | cons first fields =>
    by_cases problem : first = ['p']
    · subst problem
      simpa using Declaration.read?_exact
    · simp [problem]

theorem promised?_none (number : Nat) (row : List Char) :
    NumberedLine.promised? ⟨number,row⟩ = none ↔ ∀ d, ¬ Promises row d := by
  rw [Option.eq_none_iff_forall_ne_some]
  simp only [ne_eq,promised?_exact]

theorem numberFrom_promised (number : Nat) (rows : List (List Char)) :
    (numberFrom number rows).findSome? NumberedLine.promised? =
      rows.findSome? fun row => NumberedLine.promised? ⟨0,row⟩ := by
  induction rows generalizing number with
  | nil => rfl
  | cons row rows ih =>
    rw [numberFrom,List.findSome?_cons,List.findSome?_cons,ih]
    rfl

theorem declaration?_exact (text : String) :
    declaration? (numberFrom 1 (Text.rows text.toList)) = some d ↔ PromisedFirst (textContent text) d := by
  rw [declaration?,textContent_numbered,numberFrom_promised,List.findSome?_eq_some_iff]
  simp only [promised?_exact,promised?_none]
  constructor
  · rintro ⟨before,row,after,parts,promise,silent⟩
    exact ⟨before,row,after,parts,silent,promise⟩
  · rintro ⟨before,row,after,parts,silent,promise⟩
    exact ⟨before,row,after,parts,promise,silent⟩

theorem declaration?_none (text : String) :
    declaration? (numberFrom 1 (Text.rows text.toList)) = none ↔ ∀ row ∈ textContent text, ∀ d, ¬ Promises row d := by
  rw [declaration?,textContent_numbered,numberFrom_promised,List.findSome?_eq_none_iff]
  simp only [promised?_none]

end CnfSearch.Dimacs
