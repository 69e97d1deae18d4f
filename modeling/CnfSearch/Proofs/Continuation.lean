import CnfSearch.Proofs.ClauseGrammar

namespace CnfSearch.Dimacs
open Traversal

section Lines

theorem numberFrom_append (number : Nat) (xs ys : List (List Char)) :
    numberFrom number (xs ++ ys) = numberFrom number xs ++ numberFrom (number + xs.length) ys := by
  induction xs generalizing number with
  | nil => rfl
  | cons x xs ih =>
    rw [List.cons_append,numberFrom,numberFrom,ih,List.length_cons,List.cons_append]
    congr 3
    omega

theorem numberFrom_number {l : NumberedLine} (member : l ∈ numberFrom number lines) : number ≤ l.number := by
  induction lines generalizing number with
  | nil => cases member
  | cons text lines ih =>
    rcases List.mem_cons.mp member with rfl | later
    · exact Nat.le_refl _
    · exact Nat.le_of_succ_le (ih later)

variable (xs ys : List NumberedLine)

theorem content_append : ∃ more, content (xs ++ ys) = content xs ++ more ∧ ∀ l ∈ more, l ∈ ys := by
  unfold content
  rw [List.takeWhile_append]
  split
  · rename_i whole
    refine ⟨ys.takeWhile (!·.endsData),?_,fun l member => (List.takeWhile_prefix _).subset member⟩
    rw [(List.takeWhile_prefix _).eq_of_length whole]
  · exact ⟨[],by simp,by simp⟩

theorem clauseBlock_append :
    ∃ more, clauseBlock (xs ++ ys) = clauseBlock xs ++ more ∧ ∀ l ∈ more, l ∈ ys := by
  obtain ⟨more,shown,fresh⟩ := content_append xs ys
  unfold clauseBlock dataLines
  rw [shown,List.filter_append,List.dropWhile_append]
  have fresh : ∀ l ∈ more.filter (!·.isPassedOver), l ∈ ys := fun l member => fresh l (List.mem_filter.mp member).1
  split
  · rename_i none
    refine ⟨(more.filter (!·.isPassedOver)).dropWhile (!·.opens),?_,?_⟩
    · rw [List.isEmpty_iff.mp none,List.nil_append]
    · exact fun l member => fresh l ((List.dropWhile_suffix _).subset member)
  · exact ⟨_,rfl,fresh⟩

theorem declaration?_append (found : declaration? xs = some d) : declaration? (xs ++ ys) = some d := by
  obtain ⟨more,shown,_⟩ := content_append xs ys
  unfold declaration? at found ⊢
  rw [shown,List.findSome?_append,found]
  rfl

end Lines

def Group.extend (g : Group) (more : List NumberedLine) : Group := ⟨g.first,g.later ++ more⟩

-- How the groups go on when lines after line k are added: a last group that nothing
-- terminates takes in the first of them, and all others stay as they are.
inductive Continued (k : Nat) : List Group → List Group → Prop where
  | settled (gs : List Group) {rest : List Group} (ended : ∀ g ∈ gs, g.isTerminated = true)
      (new : ∀ h ∈ rest, k < h.line) : Continued k gs (gs ++ rest)
  | growing (gs : List Group) (more : List NumberedLine) {g : Group} {rest : List Group}
      (ended : ∀ h ∈ gs, h.isTerminated = true) (unfinished : g.isTerminated = false)
      (new : ∀ h ∈ rest, k < h.line) : Continued k (gs ++ [g]) (gs ++ g.extend more :: rest)

section Groups
variable {k : Nat} {g : Group} {gs hs : List Group}

theorem groups_first (member : g ∈ groups ls) : g.first ∈ ls := by
  rw [← groups_lines ls]
  exact List.mem_flatMap.mpr ⟨g,member,List.mem_cons_self⟩

theorem Continued.cons (ended : g.isTerminated = true) (continued : Continued k gs hs) :
    Continued k (g :: gs) (g :: hs) := by
  cases continued with
  | settled _ all new => exact .settled (g :: gs) (List.forall_mem_cons.mpr ⟨ended,all⟩) new
  | growing earlier more all unfinished new =>
    exact .growing (g :: earlier) more (List.forall_mem_cons.mpr ⟨ended,all⟩) unfinished new

theorem Continued.joinFirst (l : NumberedLine) (continued : Continued k (g :: gs) hs) :
    Continued k (joinFirst l (g :: gs)) (joinFirst l hs) := by
  generalize same : g :: gs = before at continued
  cases continued with
  | settled _ all new =>
    subst same
    obtain ⟨first,rest⟩ := List.forall_mem_cons.mp all
    rw [← isTerminated_cons l] at first
    exact .settled (⟨l,g.lines⟩ :: gs) (List.forall_mem_cons.mpr ⟨first,rest⟩) new
  | growing earlier more all unfinished new =>
    cases earlier with
    | nil =>
      cases same
      rw [← isTerminated_cons l] at unfinished
      exact .growing [] more (by simp) unfinished new
    | cons h earlier =>
      cases same
      obtain ⟨first,between⟩ := List.forall_mem_cons.mp all
      rw [← isTerminated_cons l] at first
      exact .growing (⟨l,g.lines⟩ :: earlier) more (List.forall_mem_cons.mpr ⟨first,between⟩) unfinished new

theorem groups_append (xs : List NumberedLine) (later : ∀ l ∈ ys, k < NumberedLine.number l) :
    Continued k (groups xs) (groups (xs ++ ys)) := by
  have new : ∀ g ∈ groups ys, k < g.line := fun g member => later _ (groups_first member)
  induction xs with
  | nil => exact .settled [] (by simp) new
  | cons l xs ih =>
    rw [List.cons_append,groups,groups]
    split
    · rename_i closing
      exact ih.cons closing
    · rename_i more
      cases cut : groups xs with
      | cons g gs =>
        rw [cut] at ih
        exact ih.joinFirst l
      | nil =>
        have none : xs = [] := by rw [← groups_lines xs,cut]; rfl
        subst none
        have unfinished : Group.isTerminated ⟨l,[]⟩ = false := Bool.eq_false_iff.mpr more
        cases tail : groups ys with
        | nil =>
          rw [List.nil_append,tail]
          exact .growing [] [] (by simp) unfinished (by simp)
        | cons h hs =>
          rw [tail] at new
          rw [List.nil_append,tail]
          exact .growing [] h.lines (by simp) unfinished (List.forall_mem_cons.mp new).2

theorem extend_counted (unfinished : g.isTerminated = false) (more : List NumberedLine) :
    (g.extend more).isBareZero = false := by
  cases more with
  | nil => simpa [Group.extend] using unterminated_counted unfinished
  | cons l more => simp [Group.extend,Group.isBareZero]

theorem Continued.counted (continued : Continued k gs hs) :
    Continued k (gs.filter (!·.isBareZero)) (hs.filter (!·.isBareZero)) := by
  cases continued with
  | settled _ all new =>
    rw [List.filter_append]
    exact .settled _ (fun h member => all h (List.mem_filter.mp member).1)
      fun h member => new h (List.mem_filter.mp member).1
  | growing _ more all unfinished new =>
    rw [List.filter_append,List.filter_append,List.filter_cons_of_pos (by simp [unterminated_counted unfinished]),
      List.filter_cons_of_pos (by simp [extend_counted unfinished])]
    exact .growing _ more (fun h member => all h (List.mem_filter.mp member).1) unfinished
      fun h member => new h (List.mem_filter.mp member).1

theorem clauseGroups_append (xs : List NumberedLine) (later : ∀ l ∈ ys, k < NumberedLine.number l) :
    Continued k (clauseGroups xs) (clauseGroups (xs ++ ys)) := by
  obtain ⟨more,block,fresh⟩ := clauseBlock_append xs ys
  unfold clauseGroups
  rw [block]
  exact (groups_append _ fun l member => later l (fresh l member)).counted

theorem extend_text (g : Group) (more : List NumberedLine) :
    (g.extend more).text = g.text ++ more.flatMap fun l => ' ' :: Text.trim l.text := by
  simp [Group.extend,Group.text]

theorem extend_tokens (g : Group) (more : List NumberedLine) :
    (g.extend more).tokens = g.tokens ++ more.flatMap NumberedLine.tokens := by
  simp [Group.extend,Group.tokens,Group.lines]

theorem extend_body (unfinished : g.isTerminated = false) (more : List NumberedLine) :
    ∃ extra, (g.extend more).body = g.body ++ extra := by
  have all : g.body = g.tokens := by simp [Group.body,unfinished]
  rw [all]
  cases ended : (g.extend more).isTerminated with
  | false => exact ⟨more.flatMap NumberedLine.tokens,by rw [Group.body,ended,extend_tokens]; rfl⟩
  | true =>
    rcases List.eq_nil_or_concat more with rfl | ⟨front,last,rfl⟩
    · simp [Group.extend,unfinished] at ended
    · have closing : last.closes = true := by
        simpa [Group.extend,Group.isTerminated,Group.last] using ended
      have solid : last.tokens ≠ [] := by
        intro none
        simp [NumberedLine.closes,none] at closing
      refine ⟨front.flatMap NumberedLine.tokens ++ last.tokens.dropLast,?_⟩
      rw [Group.body,ended,extend_tokens,if_pos rfl]
      simp [List.dropLast_append_of_ne_nil,solid]

theorem extend_clause (unfinished : g.isTerminated = false) (read : g.toClause = .ok c)
    (readMore : (g.extend more).toClause = .ok d) : c <+: d := by
  obtain ⟨extra,body⟩ := extend_body unfinished more
  rw [Group.toClause_read] at read readMore
  rw [body,mapM_append_ok read] at readMore
  cases tail : extra.mapM Literal.read with
  | error cause => rw [tail] at readMore; cases readMore
  | ok rest =>
    rw [tail] at readMore
    exact ⟨rest,Except.ok.inj readMore⟩

theorem extend_error (unfinished : g.isTerminated = false) (more : List NumberedLine)
    (failed : g.toClause = .error (.malformedLiteral line clause token cause)) :
    ∃ rest, (g.extend more).toClause = .error (.malformedLiteral line (clause ++ rest) token cause) := by
  obtain ⟨extra,body⟩ := extend_body unfinished more
  obtain ⟨earlier,bad,later,why,parts,good,refused,same⟩ := Group.toClause_error_exact.mp failed
  cases same
  refine ⟨more.flatMap fun l => ' ' :: Text.trim l.text,
    Group.toClause_error_exact.mpr ⟨earlier,token,later ++ extra,cause,?_,good,refused,?_⟩⟩
  · rw [body,parts,List.append_assoc,List.cons_append]
  · rw [extend_text]
    rfl

theorem Continued.error (continued : Continued k gs hs)
    (failed : gs.mapM Group.toClause = .error (.malformedLiteral line clause token cause)) :
    ∃ rest, hs.mapM Group.toClause = .error (.malformedLiteral line (clause ++ rest) token cause) := by
  cases continued with
  | settled => exact ⟨[],by rw [List.append_nil]; exact mapM_append_error failed⟩
  | @growing earlier more g rest all unfinished new =>
    cases early : earlier.mapM Group.toClause with
    | error e =>
      rw [mapM_append_error early] at failed
      exact ⟨[],by rw [List.append_nil,← failed]; exact mapM_append_error early⟩
    | ok cs =>
      rw [mapM_append_ok early] at failed
      cases last : g.toClause with
      | ok c => rw [mapM_cons_ok last] at failed; cases failed
      | error e =>
        rw [mapM_cons_error last] at failed
        cases failed
        obtain ⟨extra,grown⟩ := extend_error unfinished more last
        exact ⟨extra,by rw [mapM_append_ok early,mapM_cons_error grown]; rfl⟩

theorem Continued.clauses (continued : Continued k gs hs) (before : gs.mapM Group.toClause = .ok cs)
    (after : hs.mapM Group.toClause = .ok ds) : cs <+: ds ∨
      ∃ es c d rest, cs = es ++ [c] ∧ ds = es ++ d :: rest ∧ c <+: d ∧ ∃ g ∈ gs, g.isTerminated = false := by
  cases continued with
  | settled =>
    obtain ⟨fs,rest,kept,_,rfl⟩ := mapM_append_split after
    rw [before] at kept
    cases kept
    exact .inl ⟨rest,rfl⟩
  | @growing earlier _ g _ _ unfinished =>
    obtain ⟨es,last,early,grew,rfl⟩ := mapM_append_split before
    obtain ⟨c,_,read,none,rfl⟩ := mapM_cons_split grew
    cases none
    obtain ⟨fs,late,kept,rest,rfl⟩ := mapM_append_split after
    obtain ⟨d,more,readMore,_,rfl⟩ := mapM_cons_split rest
    rw [early] at kept
    cases kept
    exact .inr ⟨es,c,d,more,rfl,rfl,extend_clause unfinished read readMore,g,by simp,unfinished⟩

theorem Continued.clauses_last (continued : Continued k gs hs) (before : gs.mapM Group.toClause = .ok cs)
    (after : hs.mapM Group.toClause = .ok ds) : cs.length ≤ ds.length ∧ cs.dropLast <+: ds ∧
      ∀ c, cs.getLast? = some c → ∃ d, ds[cs.length - 1]? = some d ∧ c <+: d ∧
        (gs.find? (!·.isTerminated) = none → d = c) := by
  rcases continued.clauses before after with ⟨rest,rfl⟩ | ⟨es,c,d,rest,rfl,rfl,grown,g,member,unfinished⟩
  · refine ⟨(List.prefix_append cs rest).length_le,(List.dropLast_prefix cs).trans (List.prefix_append cs rest),?_⟩
    intro c last
    rw [List.getLast?_eq_getElem?] at last
    obtain ⟨bound,_⟩ := List.getElem?_eq_some_iff.mp last
    exact ⟨c,by rw [List.getElem?_append_left bound,last],List.prefix_refl c,fun _ => rfl⟩
  · refine ⟨by simp,by simp,?_⟩
    intro last same
    obtain rfl : c = last := by simpa using same
    refine ⟨d,by simp,grown,?_⟩
    intro none
    exact absurd unfinished (by simpa using List.find?_eq_none.mp none g member)

-- An error that was not there before is about a new group or about the one that grew.
theorem Continued.later (continued : Continued k gs hs) (before : gs.mapM Group.toClause = .ok cs)
    (after : hs.mapM Group.toClause = .error e) : ∃ line clause token cause,
      e = .malformedLiteral line clause token cause ∧
        (k < line ∨ ∃ g, gs.find? (!·.isTerminated) = some g ∧ g.line = line) := by
  obtain ⟨early,bad,late,parts,_,failed⟩ := mapM_error_exact.mp after
  obtain ⟨_,token,_,cause,_,_,_,same⟩ := Group.toClause_error_exact.mp failed
  refine ⟨bad.line,bad.text,token,cause,same,?_⟩
  have refused : ∀ g ∈ gs, bad ≠ g := by
    rintro g member rfl
    obtain ⟨c,read⟩ := mapM_ok_each before bad member
    rw [read] at failed
    cases failed
  have member : bad ∈ hs := by
    rw [parts]
    exact List.mem_append_right _ List.mem_cons_self
  cases continued with
  | settled _ _ new =>
    rcases List.mem_append.mp member with old | fresh
    · exact absurd rfl (refused bad old)
    · exact .inl (new bad fresh)
  | @growing earlier _ g _ all unfinished new =>
    rcases List.mem_append.mp member with old | next
    · exact absurd rfl (refused bad (List.mem_append_left _ old))
    · rcases List.mem_cons.mp next with rfl | fresh
      · right
        refine ⟨g,?_,rfl⟩
        have none : earlier.find? (!·.isTerminated) = none := by simpa using all
        simp [List.find?_append,none,unfinished]
      · exact .inl (new bad fresh)

end Groups
end CnfSearch.Dimacs
