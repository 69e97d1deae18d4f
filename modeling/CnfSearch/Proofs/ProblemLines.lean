import CnfSearch.Proofs.Correspondence
import CnfSearch.Proofs.Promise
import CnfSearch.Proofs.TextVerdict

-- What a problem line can change: whether the formula is accepted, and nothing else.
namespace CnfSearch

namespace Text

theorem rows_filter (keep : List Char → Bool) (text : List Char) :
    rows ((rows text).filter keep).flatten = (rows text).filter keep := by
  induction text using feed_induction with
  | last line noFeed =>
    by_cases nonempty : line = []
    · rw [nonempty]
      rfl
    · rw [rows_open noFeed nonempty]
      cases kept : keep line with
      | true => rw [List.filter_cons_of_pos kept,List.filter_nil,List.flatten_singleton,rows_open noFeed nonempty]
      | false => rw [List.filter_cons_of_neg (by simp [kept])]; rfl
  | row line rest noFeed ih =>
    rw [rows_feed noFeed]
    cases kept : keep (line ++ ['\n']) with
    | true =>
      rw [List.filter_cons_of_pos kept,List.flatten_cons,List.append_assoc,List.singleton_append,rows_feed noFeed,ih]
    | false => rw [List.filter_cons_of_neg (by simp [kept]),ih]

end Text

namespace Dimacs

def isProblem (row : List Char) : Bool := (Text.tokens row).head? == some ['p']

def withoutProblems (text : String) : String :=
  String.ofList ((Text.rows text.toList).filter (!isProblem ·)).flatten

-- One text is the other without problem lines, but for blanks at the ends of rows.
def LessProblems (text bare : String) : Prop :=
  (Text.rows bare.toList).map Text.trim = ((Text.rows text.toList).filter (!isProblem ·)).map Text.trim

theorem withoutProblems_less (text : String) : LessProblems text (withoutProblems text) := by
  rw [LessProblems,withoutProblems,String.toList_ofList,Text.rows_filter]

def NumberedLine.SameText (l m : NumberedLine) : Prop := Text.trim m.text = Text.trim l.text

theorem NumberedLine.SameText.tokens (same : SameText l m) : l.tokens = m.tokens := by
  unfold NumberedLine.tokens
  rw [← Text.tokens_trim l.text,← Text.tokens_trim m.text,same]

theorem Group.Matches.text (matched : Group.Matches NumberedLine.SameText g h) : h.text = g.text := by
  have joined : ∀ ls ms, List.Forall₂ NumberedLine.SameText ls ms →
      (ms.flatMap fun l => ' ' :: Text.trim l.text) = ls.flatMap fun l => ' ' :: Text.trim l.text := by
    intro ls ms related
    induction related with
    | nil => rfl
    | cons first _ ih => rw [List.flatMap_cons,List.flatMap_cons,ih,first]
  obtain ⟨l,later⟩ := g
  obtain ⟨m,more⟩ := h
  cases matched with
  | cons first rest =>
    unfold Group.text
    rw [joined _ _ rest,first]

section Bare
variable {xs ys : List (List Char)} (less : ys.map Text.trim = (xs.filter (!isProblem ·)).map Text.trim)
include less

theorem dataLines_less (n k : Nat) :
    List.Forall₂ NumberedLine.SameText (dataLines (numberFrom n xs)) (dataLines (numberFrom k ys)) := by
  induction xs generalizing n k ys with
  | nil =>
    rw [List.map_eq_nil_iff.mp less]
    exact .nil
  | cons x xs ih =>
    cases problem : isProblem x with
    | true =>
      rw [List.filter_cons_of_neg (by simp [problem])] at less
      have first : (NumberedLine.tokens ⟨n,x⟩).head? = some ['p'] := beq_iff_eq.mp problem
      have more : NumberedLine.endsData ⟨n,x⟩ = false := by simp [NumberedLine.endsData,first]
      have passed : NumberedLine.isPassedOver ⟨n,x⟩ = true := by simp [NumberedLine.isPassedOver,first]
      rw [numberFrom,dataLines_passed more passed]
      exact ih less (n + 1) k
    | false =>
      rw [List.filter_cons_of_pos (by simp [problem]),List.map_cons] at less
      obtain ⟨y,rest,rfl,sameText,less⟩ := List.map_eq_cons_iff.mp less
      have same : NumberedLine.SameText ⟨n,x⟩ ⟨k,y⟩ := sameText
      exact dataLines_related (fun _ _ => NumberedLine.SameText.tokens) same (ih less (n + 1) (k + 1))

theorem bare_silent : ∀ y ∈ ys, ∀ d, ¬ Promises y d := by
  intro y member d promise
  obtain ⟨x,kept,same⟩ := List.mem_map.mp (less ▸ List.mem_map_of_mem member)
  obtain ⟨_,_,_,tokens,_⟩ := promise
  have notProblem : isProblem x = false := by simpa using (List.mem_filter.mp kept).2
  rw [isProblem,← Text.tokens_trim,same,Text.tokens_trim,tokens] at notProblem
  cases notProblem

theorem declaration?_less (k : Nat) : declaration? (numberFrom k ys) = none := by
  rw [declaration?,content_numbered,numberFrom_promised,List.findSome?_eq_none_iff]
  intro y member
  exact (promised?_none 0 y).mpr (bare_silent less y ((List.takeWhile_prefix _).subset member))

end Bare

theorem parseLines_formula (lines : List (List Char)) (result : Formula → Parsed) :
    (parseLines lines).map (fun p => result p.formula) =
      ((clauseGroups (numberFrom 1 lines)).mapM Group.toClause).map fun cs => result ⟨cs⟩ := by
  rw [parseLines_groups]
  cases (clauseGroups (numberFrom 1 lines)).mapM Group.toClause <;> simp [Except.map]

section Verdict
variable {text bare : String} (less : LessProblems text bare)
include less

theorem parse_less : Alike (fun _ clause _ clause' => clause' = clause)
    ((parse text).map fun p => .accepted p.formula) (parse bare) := by
  have clauses : Alike (fun _ clause _ clause' => clause' = clause)
      ((clauseGroups (numberFrom 1 (Text.rows text.toList))).mapM Group.toClause)
      ((clauseGroups (numberFrom 1 (Text.rows bare.toList))).mapM Group.toClause) :=
    clauses_alike (fun _ _ => NumberedLine.SameText.tokens) (fun _ _ matched => matched.text) (dataLines_less less 1 1)
  rw [parse_rows,parse_rows,parseLines_formula,parseLines_groups (Text.rows bare.toList),declaration?_less less 1]
  exact clauses.map fun cs => Parsed.accepted ⟨cs⟩

theorem solveText_less (wanted : Interest) :
    (solveText text wanted).value = (solveText bare wanted).value ∨
    (∃ line line' clause token cause,
      (solveText text wanted).value = .error (.unparsable (.malformedLiteral line clause token cause)) ∧
      (solveText bare wanted).value = .error (.unparsable (.malformedLiteral line' clause token cause))) ∨
    ∃ m, (solveText text wanted).value = .ok (.sat m) ∧ m.assignment = [] := by
  have alike := parse_less less
  cases parsed : parse text with
  | error e =>
    rw [parsed] at alike
    obtain ⟨_,_,_,_,token,cause,rfl,rfl,bareParsed⟩ := alike.error_moved
    exact .inr (.inl ⟨_,_,_,token,cause,solveText_refused.mpr parsed,solveText_refused.mpr bareParsed⟩)
  | ok p =>
    rw [parsed] at alike
    have bareParsed : parse bare = .ok (.accepted p.formula) := alike.ok_exact.mp rfl
    cases p with
    | accepted f =>
      rw [solveText_accepted parsed,solveText_accepted bareParsed]
      exact .inl rfl
    | rejected f d =>
      rw [solveText_rejected parsed]
      obtain ⟨m,answered,_,vacuous⟩ := Formula.solve_empty wanted
      exact .inr (.inr ⟨m,answered,vacuous⟩)

end Verdict

namespace Parsed

theorem compare_accepted_exact {declared : Option Declaration} {f : Formula} :
    compare declared f = .accepted f ↔
      declared = none ∨ declared = some ⟨f.occurring.dedup.length,f.clauses.length⟩ := by
  rw [← Formula.numVariables_distinct]
  change _ ↔ declared = none ∨ declared = some ⟨f.numVariables,f.numClauses⟩
  unfold compare
  cases declared with
  | none => simp
  | some d => by_cases kept : d = ⟨f.numVariables,f.numClauses⟩ <;> simp [kept]

theorem compare_discrepancy {declared : Option Declaration} {f : Formula}
    (found : (compare declared f).discrepancy? = some q) : declared = some q.declared ∧
      q.foundVariables = f.occurring.dedup.length ∧ q.foundClauses = f.clauses.length := by
  rw [← Formula.numVariables_distinct]
  unfold compare at found
  split at found
  · cases found
  · split at found
    · cases found
    · cases found
      exact ⟨rfl,rfl,rfl⟩

end Parsed

theorem parse_compared (parsed : parse text = .ok p) :
    p = .compare (declaration? (numberFrom 1 (Text.rows text.toList))) p.formula := by
  rw [parse_rows,parseLines_groups] at parsed
  cases found : (clauseGroups (numberFrom 1 (Text.rows text.toList))).mapM Group.toClause with
  | error e => rw [found] at parsed; cases parsed
  | ok cs =>
    rw [found] at parsed
    cases parsed
    rw [Parsed.compare_formula]

theorem parse_withoutProblems (text : String) :
    Alike (fun _ clause _ clause' => clause' = clause)
      ((parse text).map fun p => .accepted p.formula) (parse (withoutProblems text)) ∧
    (∀ p, parse text = .ok p →
      (p = .accepted p.formula ↔ (∀ row ∈ textContent text, ∀ d, ¬ Promises row d) ∨
        PromisedFirst (textContent text) ⟨p.formula.occurring.dedup.length,p.formula.clauses.length⟩) ∧
      ∀ q, p.discrepancy? = some q → PromisedFirst (textContent text) q.declared ∧
        q.foundVariables = p.formula.occurring.dedup.length ∧ q.foundClauses = p.formula.clauses.length) ∧
    ∀ bare wanted, LessProblems text bare →
      (solveText text wanted).value = (solveText bare wanted).value ∨
      (∃ line line' clause token cause,
        (solveText text wanted).value = .error (.unparsable (.malformedLiteral line clause token cause)) ∧
        (solveText bare wanted).value = .error (.unparsable (.malformedLiteral line' clause token cause))) ∨
      ∃ m, (solveText text wanted).value = .ok (.sat m) ∧ m.assignment = [] := by
  refine ⟨parse_less (withoutProblems_less text),?_,fun bare wanted less => solveText_less less wanted⟩
  intro p parsed
  have compared := parse_compared parsed
  constructor
  · rw [← declaration?_none,← declaration?_exact,← Parsed.compare_accepted_exact,← compared]
  · intro q found
    rw [compared] at found
    obtain ⟨declared,counts⟩ := Parsed.compare_discrepancy found
    exact ⟨(declaration?_exact text).mp declared,counts⟩

end Dimacs
end CnfSearch
