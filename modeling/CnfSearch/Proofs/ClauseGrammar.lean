import CnfSearch.Proofs.Reading

namespace CnfSearch.Dimacs
open Traversal

def Readable (token : List Char) : Prop := ∃ l, Literal.read token = .ok l

theorem mapError_ok_exact {x : Except ε α} {f : ε → δ} : x.mapError f = .ok y ↔ x = .ok y := by
  cases x <;> simp [Except.mapError]

theorem mapError_error_exact {x : Except ε α} {f : ε → δ} :
    x.mapError f = .error e ↔ ∃ cause, x = .error cause ∧ e = f cause := by
  cases x <;> simp [Except.mapError,eq_comm]

namespace Group
variable {g : Group}

theorem toClause_ok_exact :
    g.toClause = .ok c ↔ List.Forall₂ (fun token l => Literal.read token = .ok l) g.body c := by
  unfold toClause
  rw [mapM_ok_exact]
  simp only [mapError_ok_exact]

theorem toClause_read : g.toClause = .ok c ↔ g.body.mapM Literal.read = .ok c := by
  rw [toClause_ok_exact,mapM_ok_exact]

theorem toClause_error_exact : g.toClause = .error e ↔ ∃ earlier token later cause,
    g.body = earlier ++ token :: later ∧ (∀ t ∈ earlier, Readable t) ∧
      Literal.read token = .error cause ∧ e = .malformedLiteral g.line g.text token cause := by
  unfold toClause
  rw [mapM_error_exact]
  simp only [mapError_ok_exact,mapError_error_exact]
  constructor
  · rintro ⟨earlier,token,later,parts,good,cause,bad,same⟩
    exact ⟨earlier,token,later,cause,parts,good,bad,same⟩
  · rintro ⟨earlier,token,later,cause,parts,good,bad,same⟩
    exact ⟨earlier,token,later,parts,good,cause,bad,same⟩

theorem toClause_readable : (∃ c, g.toClause = .ok c) ↔ ∀ token ∈ g.body, Readable token := by
  constructor
  · rintro ⟨c,read⟩ token member
    obtain ⟨l,each⟩ := mapM_ok_each read token member
    exact ⟨l,mapError_ok_exact.mp each⟩
  · intro readable
    apply mapM_total
    intro token member
    obtain ⟨l,read⟩ := readable token member
    exact ⟨l,mapError_ok_exact.mpr read⟩

end Group

def textGroups (text : String) : List Group := clauseGroups (numberFrom 1 (Text.lines text.toList))

def textDeclaration? (text : String) : Option Declaration :=
  declaration? (numberFrom 1 (Text.lines text.toList))

@[simp] theorem Parsed.compare_formula (declared : Option Declaration) (formula : Formula) :
    (Parsed.compare declared formula).formula = formula := by
  unfold compare
  split
  · rfl
  · split <;> rfl

theorem parse_groups (text : String) : parse text =
    ((textGroups text).mapM Group.toClause).map fun clauses => .compare (textDeclaration? text) ⟨clauses⟩ :=
  parseLines_groups _

theorem parse_ok_exact : parse text = .ok p ↔ ∃ clauses,
    (textGroups text).mapM Group.toClause = .ok clauses ∧ p = .compare (textDeclaration? text) ⟨clauses⟩ := by
  rw [parse_groups]
  cases (textGroups text).mapM Group.toClause <;> simp [Except.map,eq_comm]

theorem parse_error_exact : parse text = .error e ↔ (textGroups text).mapM Group.toClause = .error e := by
  rw [parse_groups]
  cases (textGroups text).mapM Group.toClause <;> simp [Except.map]

theorem parse_clauses (parsed : parse text = .ok p) :
    List.Forall₂ (fun g clause => g.toClause = .ok clause) (textGroups text) p.formula.clauses := by
  obtain ⟨clauses,read,rfl⟩ := parse_ok_exact.mp parsed
  rw [Parsed.compare_formula]
  exact mapM_ok_exact.mp read

theorem Fragment.body_nil_exact {f : Fragment} :
    f.body = [] ↔ Text.tokens f.text = [] ∨ Text.tokens f.text = [['0']] := by
  unfold body
  dsimp only
  split
  · rename_i terminated
    rw [← List.dropLast_append_getLast? _ terminated]
    simp
  · rename_i more
    constructor
    · exact .inl
    · intro few
      rcases few with none | zero
      · exact none
      · rw [zero] at more
        exact absurd rfl more

theorem body_nonempty {g : Group} (solid : g.Solid) (counted : g.isBareZero = false) : g.body ≠ [] := by
  have front := solid g.first List.mem_cons_self
  have tokens : Text.tokens g.fragment.text = g.first.tokens ++ g.later.flatMap NumberedLine.tokens := g.tokens_text
  rw [← Group.body_fragment (solid g.last g.last_mem)]
  intro none
  rcases Fragment.body_nil_exact.mp none with nothing | zero
  · rw [tokens] at nothing
    exact front (List.append_eq_nil_iff.mp nothing).1
  · rw [tokens] at zero
    cases later : g.later with
    | nil =>
      rw [later,List.flatMap_nil,List.append_nil] at zero
      simp [Group.isBareZero,later,zero] at counted
    | cons m rest =>
      have second := solid m (by simp [Group.lines,later])
      simp [later,List.append_eq_singleton_iff,front,second] at zero

-- No clause that is read is empty, so only the text itself can make a formula empty.
theorem parse_nonempty (parsed : parse text = .ok p) : ∀ c ∈ p.formula.clauses, c ≠ [] := by
  obtain ⟨clauses,read,rfl⟩ := parse_ok_exact.mp parsed
  rw [Parsed.compare_formula]
  rintro c member rfl
  obtain ⟨g,inText,literals⟩ := mapM_ok_mem read _ member
  have counted : g.isBareZero = false := by simpa using (List.mem_filter.mp inText).2
  apply body_nonempty (clauseGroups_solid inText) counted
  exact List.forall₂_nil_right_iff.mp (Group.toClause_ok_exact.mp literals)

theorem parse_reads_groups (text : String) :
    ((∃ p, parse text = .ok p) ↔ ∀ g ∈ textGroups text, ∀ token ∈ g.body, Readable token) ∧
    (∀ p, parse text = .ok p → List.Forall₂
      (fun g clause => List.Forall₂ (fun token l => Literal.read token = .ok l) g.body clause)
      (textGroups text) p.formula.clauses) ∧
    ∀ e, parse text = .error e ↔ ∃ before g after earlier token later cause,
      textGroups text = before ++ g :: after ∧ (∀ h ∈ before, ∀ t ∈ h.body, Readable t) ∧
      g.body = earlier ++ token :: later ∧ (∀ t ∈ earlier, Readable t) ∧
      Literal.read token = .error cause ∧ e = .malformedLiteral g.line g.text token cause := by
  refine ⟨?_,?_,?_⟩
  · constructor
    · rintro ⟨p,parsed⟩ g member
      obtain ⟨clauses,read,_⟩ := parse_ok_exact.mp parsed
      exact Group.toClause_readable.mp (mapM_ok_each read g member)
    · intro readable
      obtain ⟨clauses,read⟩ := mapM_total fun g member => Group.toClause_readable.mpr (readable g member)
      exact ⟨_,parse_ok_exact.mpr ⟨clauses,read,rfl⟩⟩
  · intro p parsed
    exact (parse_clauses parsed).imp fun _ _ => Group.toClause_ok_exact.mp
  · intro e
    rw [parse_error_exact,mapM_error_exact]
    simp only [Group.toClause_error_exact,Group.toClause_readable]
    constructor
    · rintro ⟨before,g,after,parts,good,earlier,token,later,cause,bad⟩
      exact ⟨before,g,after,earlier,token,later,cause,parts,good,bad⟩
    · rintro ⟨before,g,after,earlier,token,later,cause,parts,good,bad⟩
      exact ⟨before,g,after,parts,good,earlier,token,later,cause,bad⟩

end CnfSearch.Dimacs
