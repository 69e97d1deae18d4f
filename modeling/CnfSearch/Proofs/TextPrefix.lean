import CnfSearch.Proofs.Continuation

namespace CnfSearch.Dimacs
open Traversal

def readText (text : String) : Except ReadError Reader := Reader.start.readLines 1 (Text.lines text.toList)

def ofLines (lines : List (List Char)) : String := String.ofList (Text.terminate lines)

theorem settle_ok (r : Reader) (readable : ∀ g ∈ gs, ∃ c, Group.toClause g = .ok c) :
    ∃ after, r.settle gs = .ok after ∧ after.declared = r.declared ∧
      after.pending = (gs.find? (!·.isTerminated)).map Group.fragment := by
  obtain ⟨clauses,complete⟩ := mapM_total fun g (member : g ∈ gs.filter (·.isTerminated)) =>
    readable g (List.mem_filter.mp member).1
  rw [Reader.settle,complete]
  exact ⟨_,rfl,rfl,rfl⟩

theorem readText_parsed (parsed : parse text = .ok p) : ∃ r, readText text = .ok r ∧
    r.declared = textDeclaration? text ∧
    r.pending = ((textGroups text).find? (!·.isTerminated)).map Group.fragment := by
  obtain ⟨_,read,_⟩ := parse_ok_exact.mp parsed
  rw [readText,readLines_groups]
  exact settle_ok _ (mapM_ok_each read)

section Prefix
variable {lines : List (List Char)}

theorem lines_ofLines (noFeed : ∀ line ∈ lines, '\n' ∉ line) :
    Text.lines (ofLines lines).toList = lines.map Text.withoutReturn := by
  rw [ofLines,String.toList_ofList,Text.lines_terminate noFeed]

theorem numbered_take (noFeed : ∀ line ∈ lines, '\n' ∉ line) (k : Nat) :
    ∃ rest, numberFrom 1 (Text.lines (ofLines lines).toList) =
      numberFrom 1 (Text.lines (ofLines (lines.take k)).toList) ++ rest ∧ ∀ l ∈ rest, k < l.number := by
  have noFeedEarly : ∀ line ∈ lines.take k, '\n' ∉ line := fun line member => noFeed line (List.mem_of_mem_take member)
  rw [lines_ofLines noFeed,lines_ofLines noFeedEarly]
  have split : lines.map Text.withoutReturn =
      (lines.take k).map Text.withoutReturn ++ (lines.drop k).map Text.withoutReturn := by
    rw [← List.map_append,List.take_append_drop]
  refine ⟨_,by rw [split,numberFrom_append],?_⟩
  intro l member
  rcases Nat.lt_or_ge lines.length k with short | long
  · rw [List.drop_of_length_le (Nat.le_of_lt short)] at member
    cases member
  · have number := numberFrom_number member
    rw [List.length_map,List.length_take,Nat.min_eq_left long] at number
    omega

theorem textGroups_take (noFeed : ∀ line ∈ lines, '\n' ∉ line) (k : Nat) :
    Continued k (textGroups (ofLines (lines.take k))) (textGroups (ofLines lines)) := by
  obtain ⟨rest,whole,later⟩ := numbered_take noFeed k
  unfold textGroups
  rw [whole]
  exact clauseGroups_append _ later

theorem textDeclaration?_take (noFeed : ∀ line ∈ lines, '\n' ∉ line)
    (found : textDeclaration? (ofLines (lines.take k)) = some d) : textDeclaration? (ofLines lines) = some d := by
  obtain ⟨rest,whole,_⟩ := numbered_take noFeed k
  unfold textDeclaration? at found ⊢
  rw [whole]
  exact declaration?_append _ rest found

-- No later line repairs or moves an error.
theorem parse_take (noFeed : ∀ line ∈ lines, '\n' ∉ line) (k : Nat) :
    (∀ line clause token cause,
      parse (ofLines (lines.take k)) = .error (.malformedLiteral line clause token cause) →
      ∃ more, parse (ofLines lines) = .error (.malformedLiteral line (clause ++ more) token cause)) ∧
    ∀ a, parse (ofLines (lines.take k)) = .ok a → ∃ r, readText (ofLines (lines.take k)) = .ok r ∧
      (∀ b, parse (ofLines lines) = .ok b →
        a.formula.clauses.length ≤ b.formula.clauses.length ∧
        a.formula.clauses.dropLast <+: b.formula.clauses ∧
        (∀ c, a.formula.clauses.getLast? = some c →
          ∃ d, b.formula.clauses[a.formula.clauses.length - 1]? = some d ∧ c <+: d ∧ (r.pending = none → d = c)) ∧
        ∀ d, r.declared = some d → b = .compare (some d) b.formula) ∧
      ∀ e, parse (ofLines lines) = .error e → ∃ line clause token cause,
        e = .malformedLiteral line clause token cause ∧
          (k < line ∨ ∃ f, r.pending = some f ∧ f.line = line) := by
  have continued := textGroups_take noFeed k
  constructor
  · intro line clause token cause failed
    obtain ⟨more,stays⟩ := continued.error (parse_error_exact.mp failed)
    exact ⟨more,parse_error_exact.mpr stays⟩
  · intro a parsed
    obtain ⟨r,reached,declared,pending⟩ := readText_parsed parsed
    obtain ⟨cs,early,rfl⟩ := parse_ok_exact.mp parsed
    refine ⟨r,reached,?_,?_⟩
    · intro b parsedAll
      obtain ⟨ds,all,rfl⟩ := parse_ok_exact.mp parsedAll
      simp only [Parsed.compare_formula]
      obtain ⟨length,front,last⟩ := continued.clauses_last early all
      refine ⟨length,front,?_,?_⟩
      · intro c isLast
        obtain ⟨d,atLast,grown,kept⟩ := last c isLast
        refine ⟨d,atLast,grown,fun complete => kept ?_⟩
        rw [complete] at pending
        exact Option.map_eq_none_iff.mp pending.symm
      · intro d found
        rw [textDeclaration?_take noFeed (declared.symm.trans found)]
    · intro e failed
      obtain ⟨line,clause,token,cause,same,place⟩ := continued.later early (parse_error_exact.mp failed)
      refine ⟨line,clause,token,cause,same,place.imp_right ?_⟩
      rintro ⟨g,left,start⟩
      exact ⟨g.fragment,by rw [pending,left]; rfl,start⟩

-- The clause that two lines leave unfinished is spoiled by the third, and a fourth does not
-- repair it.
theorem parse_take_spoiled :
    let lines := ["1 0".toList,"2".toList,"x 0".toList,"3 0".toList]
    (∀ line ∈ lines, '\n' ∉ line) ∧
    (∃ a r, parse (ofLines (lines.take 2)) = .ok a ∧ readText (ofLines (lines.take 2)) = .ok r ∧
      ∃ f, r.pending = some f ∧ f.line = 2) ∧
    ∃ more, parse (ofLines lines) =
      .error (.malformedLiteral 2 ("2 x 0".toList ++ more) ['x'] (.notANumeral .invalidDigit)) := by
  intro lines
  have noFeed : ∀ line ∈ lines, '\n' ∉ line := by decide
  have two : parse (ofLines (lines.take 2)) = .ok (.accepted
      ⟨[[⟨⟨1,by decide,by decide⟩,true⟩],[⟨⟨2,by decide,by decide⟩,true⟩]]⟩) := by decide +kernel
  have three : parse (ofLines (lines.take 3)) =
      .error (.malformedLiteral 2 "2 x 0".toList ['x'] (.notANumeral .invalidDigit)) := by decide +kernel
  obtain ⟨more,stays⟩ := (parse_take noFeed 3).1 _ _ _ _ three
  obtain ⟨r,reached,_,later⟩ := (parse_take noFeed 2).2 _ two
  obtain ⟨_,_,_,_,same,place⟩ := later _ stays
  cases same
  exact ⟨noFeed,⟨_,r,two,reached,place.resolve_left (by decide)⟩,more,stays⟩

end Prefix
end CnfSearch.Dimacs
