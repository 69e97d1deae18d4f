import CnfSearch.Proofs.Layout
import CnfSearch.Proofs.Continuation
import CnfSearch.Proofs.Revision

-- A formula that is written down in any layout is read back as it was.
namespace CnfSearch.Dimacs
open Traversal

section Data

def dataFrom (number : Nat) (rows : List (List Char)) : List NumberedLine :=
  (numberFrom number rows).filter (!·.isPassedOver)

theorem dataFrom_append (number : Nat) (xs ys : List (List Char)) :
    dataFrom number (xs ++ ys) = dataFrom number xs ++ dataFrom (number + xs.length) ys := by
  rw [dataFrom,numberFrom_append,List.filter_append,dataFrom,dataFrom]

theorem numberFrom_text (member : l ∈ numberFrom number rows) : l.text ∈ rows := by
  induction rows generalizing number with
  | nil => cases member
  | cons row rows ih =>
    rcases List.mem_cons.mp member with rfl | later
    · exact List.mem_cons_self
    · exact List.mem_cons_of_mem _ (ih later)

theorem dataFrom_kept : ∀ l ∈ dataFrom number rows, l.tokens ≠ [] := fun _ member =>
  kept_tokens (by simpa using (List.mem_filter.mp member).2)

theorem dataFrom_tokens (number : Nat) (rows : List (List Char)) :
    (dataFrom number rows).flatMap NumberedLine.tokens = bodyTokens rows := by
  induction rows generalizing number with
  | nil => rfl
  | cons row rows ih =>
    have later := ih (number + 1)
    have same : NumberedLine.isPassedOver ⟨number,row⟩ = NumberedLine.isPassedOver ⟨0,row⟩ := isPassedOver_tokens rfl
    unfold dataFrom bodyTokens at later ⊢
    rw [numberFrom,List.filter_cons,List.filter_cons,same]
    split
    · rw [List.flatMap_cons,List.flatMap_cons,later]
      rfl
    · exact later

theorem dataLines_from (notEnding : ∀ row ∈ rows, isEndMarker row = false) (number : Nat) :
    dataLines (numberFrom number rows) = dataFrom number rows := by
  rw [dataLines,content_numbered,List.takeWhile_eq_self_iff.mpr (by simpa using notEnding),dataFrom]

theorem dataFrom_blank (silent : bodyTokens rows = []) : dataFrom number rows = [] := by
  rw [← dataFrom_tokens number,List.flatMap_eq_nil_iff] at silent
  exact List.eq_nil_iff_forall_not_mem.mpr fun l member => dataFrom_kept l member (silent l member)

end Data

section Clauses

theorem zero_absent (c : Clause) : ['0'] ∉ c.map Literal.token := by
  intro zero
  obtain ⟨l,_,same⟩ := List.mem_map.mp zero
  have read := l.read_token
  rw [same] at read
  cases read

theorem clause_lines (kept : ∀ l ∈ ls, NumberedLine.tokens l ≠ [])
    (tokens : ls.flatMap NumberedLine.tokens = literals ++ [['0']]) : ∃ front l first, ls = front ++ [l] ∧
      l.tokens = first ++ [['0']] ∧ front.flatMap NumberedLine.tokens ++ first = literals := by
  rcases List.eq_nil_or_concat' ls with rfl | ⟨front,l,rfl⟩
  · simp at tokens
  obtain ⟨first,zero,last⟩ := (List.eq_nil_or_concat' l.tokens).resolve_left (kept l (by simp))
  rw [List.flatMap_append,List.flatMap_singleton,last,← List.append_assoc] at tokens
  obtain ⟨before,zero⟩ := List.append_inj' tokens rfl
  cases zero
  exact ⟨front,l,first,rfl,last,before⟩

theorem groups_clause (kept : ∀ l ∈ ls, NumberedLine.tokens l ≠ []) (nonempty : c ≠ [])
    (tokens : ls.flatMap NumberedLine.tokens = c.map Literal.token ++ [['0']]) (rest : List NumberedLine) :
    ∃ g, groups (ls ++ rest) = g :: groups rest ∧ g.isBareZero = false ∧ g.toClause = .ok c := by
  obtain ⟨front,l,first,rfl,last,literals⟩ := clause_lines kept tokens
  have closing : l.closes = true := by simp [NumberedLine.closes,last]
  -- The lines before the last one hold no zero, so none of them closes the group.
  have unfinished : ∀ m ∈ front, m.closes = false := by
    intro m member
    by_contra closes
    have zero : m.tokens.getLast? = some ['0'] := by simpa [NumberedLine.closes] using closes
    have among := List.mem_append_left first (List.mem_flatMap.mpr ⟨m,member,List.mem_of_getLast? zero⟩)
    exact zero_absent c (literals ▸ among)
  obtain ⟨held,lines⟩ : ∃ held, heldLines held = front := by
    cases front with
    | nil => exact ⟨none,rfl⟩
    | cons m front => exact ⟨some ⟨m,front⟩,rfl⟩
  subst lines
  have body : (Group.grow held l).body = c.map Literal.token := by
    rw [Group.body,if_pos (by rwa [Group.isTerminated,grow_last]),Group.tokens,grow_lines,List.flatMap_append,
      List.flatMap_singleton,last,← List.append_assoc,literals,List.dropLast_concat]
  refine ⟨Group.grow held l,?_,?_,?_⟩
  · rw [List.append_assoc]
    exact groups_close (by rintro g rfl; exact unfinished) closing rest
  · by_contra bare
    obtain ⟨rfl,single⟩ := grow_bareZero (by simpa using bare)
    have none : first = [] := by simpa [last] using single
    subst none
    exact nonempty (List.map_eq_nil_iff.mp literals.symm)
  · rw [Group.toClause_ok_exact,body,List.forall₂_map_left_iff]
    exact List.forall₂_same.mpr fun l _ => l.read_token

variable (ws : List Written)

theorem written_data (w : Written) (number : Nat) :
    (dataFrom number (Text.rows w.chars)).flatMap NumberedLine.tokens = w.clause.map Literal.token ++ [['0']] := by
  rw [dataFrom_tokens,(Carries.written w).tokens]

theorem groups_written (number : Nat) : List.Forall₂ (fun g w => g.isBareZero = false ∧ g.toClause = .ok w.clause)
    (groups (dataFrom number (Text.rows (ws.flatMap Written.chars)))) ws := by
  induction ws generalizing number with
  | nil => exact .nil
  | cons w ws ih =>
    obtain ⟨g,cut,counted,read⟩ := groups_clause dataFrom_kept (List.cons_ne_nil _ _) (written_data w number)
      (dataFrom (number + (Text.rows w.chars).length) (Text.rows (ws.flatMap Written.chars)))
    rw [List.flatMap_cons,Text.rows_append (Carries.written w).ends,dataFrom_append,cut]
    exact .cons ⟨counted,read⟩ (ih _)

theorem written_opens (number : Nat) :
    (dataFrom number (Text.rows (ws.flatMap Written.chars))).dropWhile (!·.opens) =
      dataFrom number (Text.rows (ws.flatMap Written.chars)) := by
  cases ws with
  | nil => rfl
  | cons w ws =>
    rw [List.flatMap_cons,Text.rows_append (Carries.written w).ends,dataFrom_append]
    have tokens := written_data w number
    have kept : ∀ l ∈ dataFrom number (Text.rows w.chars), l.tokens ≠ [] := dataFrom_kept
    generalize dataFrom number (Text.rows w.chars) = ls at tokens kept
    cases ls with
    | nil => simp at tokens
    | cons l ls =>
      obtain ⟨token,more,found⟩ := List.exists_cons_of_ne_nil (kept l List.mem_cons_self)
      rw [List.flatMap_cons,found] at tokens
      have first : token = w.first.token := (List.cons.inj tokens).1
      have opening : l.opens = true := by
        rw [NumberedLine.opens,found,first]
        exact w.first.token_integer
      rw [List.cons_append,List.dropWhile_cons_of_neg (by simp [opening])]

end Clauses

namespace Layout
variable (y : Layout)

theorem clauseBlock_written : ∃ number,
    clauseBlock (numberFrom 1 (Text.rows y.chars)) = dataFrom number (Text.rows (y.clauses.flatMap Written.chars)) := by
  obtain ⟨_,whole⟩ := Carries.layout y
  have preamble := Carries.preamble y.preamble
  have unread : ∀ l ∈ dataFrom 1 (Text.rows (Text.terminate (y.preamble.map Preamble.chars))), (!l.opens) = true := by
    intro l member
    have first := preamble_unread y.preamble _ (numberFrom_text (List.mem_filter.mp member).1)
    cases tokens : l.tokens.head? with
    | none => simp [NumberedLine.opens,tokens]
    | some token =>
      have unsigned := first token tokens
      simp [NumberedLine.opens,tokens,unsigned]
  have after : ∀ number, dataFrom number (Text.rows (fillerChars y.after)) = [] := fun _ =>
    dataFrom_blank (Carries.fillers y.after).tokens
  rw [clauseBlock,dataLines_from whole.notEnding,chars,
    Text.rows_append (preamble.append (Carries.clauses y.clauses)).ends,Text.rows_append preamble.ends,
    dataFrom_append,dataFrom_append,after,List.append_nil,List.dropWhile_append_of_pos unread]
  exact ⟨_,written_opens y.clauses _⟩

theorem parse_bare : parse (String.ofList y.chars) = .ok (.accepted y.formula) := by
  obtain ⟨_,whole⟩ := Carries.layout y
  obtain ⟨number,block⟩ := y.clauseBlock_written
  obtain ⟨counted,related⟩ := (List.forall₂_and_left _ _).mp (groups_written y.clauses number)
  have read : (clauseGroups (numberFrom 1 (Text.rows y.chars))).mapM Group.toClause = .ok y.formula.clauses := by
    rw [clauseGroups,block,List.filter_eq_self.mpr (by simpa using counted),mapM_ok_exact]
    exact List.forall₂_map_right_iff.mpr related
  have silent : declaration? (numberFrom 1 (Text.rows y.chars)) = none := by
    apply declaration?_less
    rw [List.filter_eq_self.mpr (by simpa using whole.notProblem)]
  rw [parse_rows,String.toList_ofList,parseLines_groups,read,silent]
  rfl

theorem headed_rows (between : Text.EndsRow front) (h : Header f) (back : List Char) :
    Text.rows (front ++ h.line ++ back) = Text.rows front ++ h.line :: Text.rows back := by
  rw [List.append_assoc,Text.rows_append between,Header.line,List.append_assoc,List.singleton_append,Text.rows_feed h.noFeed]

theorem header_tokens (h : Header f) : Text.tokens h.line = ['p'] :: ['c','n','f'] ::
    Text.Numeral.ofNat f.occurring.dedup.length :: Text.Numeral.ofNat f.clauses.length :: h.trailing := by
  rw [Header.line,Text.tokens_feed,h.tokens]

theorem header_promises (h : Header f) (promise : Promises h.line d) : d = ⟨f.occurring.dedup.length,f.clauses.length⟩ := by
  obtain ⟨first,second,trailing,tokens,variablesRead,clausesRead⟩ := promise
  rw [header_tokens] at tokens
  cases tokens
  obtain ⟨numVariables,_⟩ := Text.Numeral.natural_ofNat.mp variablesRead
  obtain ⟨numClauses,_⟩ := Text.Numeral.natural_ofNat.mp clausesRead
  cases d
  cases numVariables
  cases numClauses
  rfl

section Header
variable {y} (parts : y.chars = front ++ back) (between : Text.EndsRow front) (h : Header y.formula)
include parts between

theorem headed_less : LessProblems (String.ofList (front ++ h.line ++ back)) (String.ofList y.chars) := by
  obtain ⟨_,whole⟩ := Carries.layout y
  have notProblem := whole.notProblem
  rw [parts,Text.rows_append between,List.forall_mem_append] at notProblem
  have problem : isProblem h.line = true := by simp [isProblem,header_tokens]
  rw [LessProblems,String.toList_ofList,String.toList_ofList,headed_rows between,parts,Text.rows_append between,
    List.filter_append,List.filter_cons_of_neg (by simp [problem]),List.filter_eq_self.mpr (by simpa using notProblem.1),
    List.filter_eq_self.mpr (by simpa using notProblem.2)]

theorem headed_promised (promise : PromisedFirst (textContent (String.ofList (front ++ h.line ++ back))) d) :
    d = ⟨y.formula.occurring.dedup.length,y.formula.clauses.length⟩ := by
  obtain ⟨_,whole⟩ := Carries.layout y
  obtain ⟨before,row,after,split,_,promised⟩ := promise
  have member : row ∈ Text.rows (front ++ h.line ++ back) := by
    rw [← String.toList_ofList (l := front ++ h.line ++ back)]
    exact (List.takeWhile_prefix _).subset (split ▸ List.mem_append_right _ List.mem_cons_self)
  have problem : isProblem row = true := by
    obtain ⟨_,_,_,tokens,_⟩ := promised
    simp [isProblem,tokens]
  have other : row ∉ Text.rows y.chars := by
    intro inside
    rw [whole.notProblem row inside] at problem
    cases problem
  rw [parts,Text.rows_append between,List.mem_append,not_or] at other
  rw [headed_rows between,List.mem_append,List.mem_cons] at member
  obtain rfl : row = h.line := (member.resolve_left other.1).resolve_right other.2
  exact header_promises h promised

theorem parse_headed : parse (String.ofList (front ++ h.line ++ back)) = .ok (.accepted y.formula) := by
  have found := (parse_less (headed_less parts between h)).ok_exact.mpr y.parse_bare
  cases parsed : parse (String.ofList (front ++ h.line ++ back)) with
  | error e => rw [parsed] at found; cases found
  | ok p =>
    have same : p.formula = y.formula := by
      rw [parsed] at found
      exact (Parsed.accepted.inj (Except.ok.inj found))
    rw [parse_compared parsed,same,Parsed.compare_accepted_exact.mpr]
    cases declared : declaration? (numberFrom 1 (Text.rows (String.ofList (front ++ h.line ++ back)).toList)) with
    | none => exact .inl rfl
    | some d => exact .inr (congrArg some (headed_promised parts between h ((declaration?_exact _).mp declared)))

end Header

section Ending

theorem ending_marked (leading : Spacing) (parted : ∀ c ∈ rest.head?, Text.isBlank c = true) :
    isEndMarker (leading.chars ++ '%' :: rest) = true := by
  rw [isEndMarker,Text.tokens_blanks_append leading.blank]
  cases rest with
  | nil => rfl
  | cons c rest =>
    rw [← List.singleton_append,Text.tokens_append_blank (parted c rfl)]
    rfl

theorem ending_first (e : Ending) : ∃ row more, Text.rows e.chars = row :: more ∧ isEndMarker row = true := by
  have noFeed : ∀ rest, '\n' ∉ rest → '\n' ∉ e.leading.chars ++ '%' :: rest := fun rest absent =>
    List.not_mem_append e.leading.noFeed (List.not_mem_cons_of_ne_of_not_mem (by decide) absent)
  have parted := e.parted
  unfold Ending.chars
  by_cases fed : '\n' ∈ e.rest
  · obtain ⟨line,rest,parts,absent⟩ := List.eq_append_cons_of_mem fed
    refine ⟨e.leading.chars ++ '%' :: (line ++ ['\n']),Text.rows rest,?_,ending_marked e.leading ?_⟩
    · rw [parts,← List.cons_append,← List.append_assoc,Text.rows_feed (noFeed line absent),List.append_assoc,List.cons_append]
    · rw [parts] at parted
      cases line with
      | nil => exact parted
      | cons c line => exact parted
  · exact ⟨_,[],Text.rows_open (noFeed e.rest fed) (by simp),ending_marked e.leading parted⟩

theorem parse_ended (ends : Text.EndsRow body) (notEnding : ∀ row ∈ Text.rows body, isEndMarker row = false) (e : Ending) :
    parse (String.ofList (body ++ e.chars)) = parse (String.ofList body) := by
  obtain ⟨row,more,cut,marked⟩ := ending_first e
  have all : ∀ row ∈ Text.rows body, (!isEndMarker row) = true := by simpa using notEnding
  have same : textContent (String.ofList (body ++ e.chars)) = textContent (String.ofList body) := by
    rw [textContent,textContent,String.toList_ofList,String.toList_ofList,Text.rows_append ends,cut,
      List.takeWhile_append_of_pos all,List.takeWhile_cons_of_neg (by simp [marked]),List.append_nil,
      List.takeWhile_eq_self_iff.mpr all]
  rw [parse_content,same,← parse_content]

end Ending

theorem body_rows (parts : y.chars = front ++ back) (between : Text.EndsRow front) (header : Option (Header y.formula)) :
    Text.EndsRow (front ++ header.elim [] Header.line ++ back) ∧
      ∀ row ∈ Text.rows (front ++ header.elim [] Header.line ++ back), isEndMarker row = false := by
  obtain ⟨_,whole⟩ := Carries.layout y
  cases header with
  | none => simpa [← parts] using ⟨whole.ends,whole.notEnding⟩
  | some h =>
    have ends : Text.EndsRow back := Text.endsRow_back (parts ▸ whole.ends)
    have notEnding := whole.notEnding
    rw [parts,Text.rows_append between,List.forall_mem_append] at notEnding
    have header : isEndMarker h.line = false := by simp [isEndMarker,header_tokens]
    refine ⟨Text.endsRow_append (Text.endsRow_append between (.inr List.getLast?_concat)) ends,?_⟩
    change ∀ row ∈ Text.rows (front ++ h.line ++ back), _
    rw [headed_rows between,List.forall_mem_append,List.forall_mem_cons]
    exact ⟨notEnding.1,header,notEnding.2⟩

end Layout

theorem parse_written (y : Layout) (written : y.Writes text) : parse (String.ofList text) = .ok (.accepted y.formula) := by
  induction written with
  | whole front back parts between header ending =>
    have body : parse (String.ofList (front ++ header.elim [] Header.line ++ back)) = .ok (.accepted y.formula) := by
      cases header with
      | none => simpa [← parts] using y.parse_bare
      | some h => exact Layout.parse_headed parts between h
    cases ending with
    | none => simpa using body
    | some e =>
      obtain ⟨ends,notEnding⟩ := y.body_rows parts between header
      exact (Layout.parse_ended ends notEnding e).trans body
  | unfed fed read => exact (parse_respaced (tokenRows_unfed _)).ok_exact.mpr read

-- The clauses 4 -7 and 7, the first of them over three rows and around a comment.
def folded : Layout where
  preamble := [⟨['n','o','t','e'],by decide,by decide +kernel⟩]
  clauses := [
    { before := []
      leading := .none
      first := ⟨⟨4,by decide,by decide⟩,true⟩
      rest := [(.newRow .none [⟨['c',' ','5'],by decide,.inr ⟨[],[['5']],by decide +kernel⟩⟩] .space,
        ⟨⟨7,by decide,by decide⟩,false⟩)]
      closing := .newRow .space [] .none
      trailing := ⟨['\t','\r'],by simp [Text.isBlank],by decide⟩ },
    .plain ⟨⟨7,by decide,by decide⟩,true⟩ []]
  after := []

theorem parse_written_folded :
    folded.Writes "note\n4\nc 5\np cnf 2 2 more\n -7 \n0\t\r\n7 0\n%\n9".toList ∧
    parse "note\n4\nc 5\np cnf 2 2 more\n -7 \n0\t\r\n7 0\n%\n9" = .ok (.accepted folded.formula) ∧
    folded.formula.clauses.map (·.map Literal.toInt) = [[4,-7],[7]] := by
  let header : Header folded.formula :=
    ⟨"p cnf 2 2 more".toList,by decide +kernel,[['m','o','r','e']],by decide +kernel⟩
  let ending : Ending := ⟨.none,['\n','9'],by simp [Text.isBlank]⟩
  have written := Layout.Writes.whole "note\n4\nc 5\n".toList " -7 \n0\t\r\n7 0\n".toList
    (by decide +kernel : folded.chars = _) (.inr (by decide +kernel)) (some header) (some ending)
  have spelled : "note\n4\nc 5\n".toList ++ header.line ++ " -7 \n0\t\r\n7 0\n".toList ++ ending.chars =
      "note\n4\nc 5\np cnf 2 2 more\n -7 \n0\t\r\n7 0\n%\n9".toList := by decide +kernel
  have written : folded.Writes "note\n4\nc 5\np cnf 2 2 more\n -7 \n0\t\r\n7 0\n%\n9".toList := spelled ▸ written
  exact ⟨written,by simpa using parse_written folded written,by decide⟩

end CnfSearch.Dimacs
