import CnfSearch.Proofs.Grammar
import CnfSearch.Proofs.Traversal

namespace CnfSearch.Dimacs
open Traversal

section Lines
variable {l : NumberedLine}

theorem opensBlock_trim (l : NumberedLine) : opensBlock (Text.trim l.text) = l.opens := by
  unfold opensBlock NumberedLine.opens NumberedLine.tokens
  rw [Text.tokens_trim]
  cases (Text.tokens l.text).head? with
  | none => rfl
  | some first => cases read : Text.Numeral.integer? first <;> simp [read]

theorem read_endMarker (ends : l.endsData = true) : Line.read l.text = .endMarker := by
  obtain ⟨rest,found⟩ := List.head?_eq_some_iff.mp (beq_iff_eq.mp ends)
  unfold NumberedLine.tokens at found
  simp [Line.read,Text.tokens_trim,found]

theorem read_data (more : l.endsData = false) (kept : l.isPassedOver = false) :
    Line.read l.text = .data (Text.trim l.text) := by
  unfold NumberedLine.endsData NumberedLine.tokens at more
  unfold NumberedLine.isPassedOver NumberedLine.tokens at kept
  unfold Line.read
  simp only [Text.tokens_trim]
  split <;> simp_all

theorem promised?_kept (kept : l.isPassedOver = false) : l.promised? = none := by
  unfold NumberedLine.isPassedOver at kept
  unfold NumberedLine.promised?
  split <;> simp_all

end Lines

namespace Group
variable {g : Group} {l : NumberedLine}

def fragment (g : Group) : Fragment := ⟨g.line,g.text⟩

theorem tokens_text (g : Group) : Text.tokens g.text = g.tokens := by
  have joined : ∀ (later : List NumberedLine) (text : List Char),
      Text.tokens (text ++ later.flatMap fun l => ' ' :: Text.trim l.text) =
        Text.tokens text ++ later.flatMap NumberedLine.tokens := by
    intro later
    induction later with
    | nil => simp
    | cons l later ih =>
      intro text
      have space : Text.isBlank ' ' = true := by decide
      have longer := ih (text ++ ' ' :: Text.trim l.text)
      rw [Text.tokens_append_blank space,Text.tokens_trim] at longer
      simpa [NumberedLine.tokens] using longer
  have whole := joined g.later (Text.trim g.first.text)
  rw [Text.tokens_trim] at whole
  exact whole

theorem tokens_last (solid : g.last.tokens ≠ []) : g.tokens.getLast? = g.last.tokens.getLast? := by
  obtain ⟨front,lines⟩ := g.lines_last
  rw [tokens,lines,List.flatMap_append,List.flatMap_singleton,List.getLast?_append,Option.or_eq_left_of_isSome]
  simpa using solid

theorem isTerminated_fragment (solid : g.last.tokens ≠ []) : g.fragment.isTerminated = g.isTerminated := by
  unfold Fragment.isTerminated isTerminated NumberedLine.closes
  rw [fragment,tokens_text,tokens_last solid]

theorem body_fragment (solid : g.last.tokens ≠ []) : g.fragment.body = g.body := by
  unfold Fragment.body body isTerminated NumberedLine.closes
  simp only [fragment,tokens_text,tokens_last solid,beq_iff_eq]

theorem toClause_fragment (solid : g.last.tokens ≠ []) : g.fragment.toClause = g.toClause := by
  unfold Fragment.toClause toClause
  rw [body_fragment solid]
  rfl

theorem trim_solid (solid : l.tokens ≠ []) : Text.trim l.text ≠ [] := by
  intro none
  apply solid
  unfold NumberedLine.tokens
  rw [← Text.tokens_trim,none]
  rfl

theorem fragment_start (l : NumberedLine) :
    (Fragment.start l.number).extend (Text.trim l.text) = (grow none l).fragment := by
  simp [Fragment.start,Fragment.extend,grow,fragment,line,text]

theorem fragment_extend (solid : g.first.tokens ≠ []) (l : NumberedLine) :
    g.fragment.extend (Text.trim l.text) = (grow (some g) l).fragment := by
  have nonempty : g.text.isEmpty = false := by simp [text,trim_solid solid]
  have longer : (grow (some g) l).text = g.text ++ ' ' :: Text.trim l.text := by simp [grow,text]
  have start : (grow (some g) l).line = g.line := rfl
  simp [Fragment.extend,fragment,nonempty,longer,start]

end Group

namespace Reader

def withDeclared (r : Reader) (declared : Option Declaration) : Reader := { r with declared }

def feed (r : Reader) (l : NumberedLine) : Except ReadError Reader :=
  r.readData l.number (Text.trim l.text)

theorem readLine_endMarker (r : Reader) {l : NumberedLine} (ends : l.endsData = true) :
    r.readLine number l.text = .ok ⟨r,true⟩ := by
  rw [readLine,read_endMarker ends]

theorem readLine_data (r : Reader) {l : NumberedLine} (more : l.endsData = false) (kept : l.isPassedOver = false) :
    r.readLine l.number l.text = (r.feed l).map (⟨·,false⟩) := by
  rw [readLine,read_data more kept]
  rfl

theorem declare_or (r : Reader) (declared : Declaration) :
    r.declare declared = r.withDeclared (r.declared.or (some declared)) := by
  obtain ⟨declared,clauses,pending,inBlock⟩ := r
  cases declared <;> rfl

theorem readLine_passedOver (r : Reader) {l : NumberedLine} (more : l.endsData = false)
    (passed : l.isPassedOver = true) :
    r.readLine number l.text = .ok ⟨r.withDeclared (r.declared.or l.promised?),false⟩ := by
  unfold NumberedLine.endsData NumberedLine.tokens at more
  unfold NumberedLine.isPassedOver NumberedLine.tokens at passed
  unfold readLine Line.read NumberedLine.promised? NumberedLine.tokens
  simp only [Text.tokens_trim]
  cases found : Text.tokens l.text with
  | nil => simp [withDeclared]
  | cons first fields =>
    simp only [found,List.head?_cons] at more passed
    by_cases problem : first = ['p']
    · subst problem
      cases read : Declaration.read? fields with
      | none => simp [read,withDeclared]
      | some promise => simp [read,declare_or]
    · have comment : first.head? = some 'c' := by simpa [problem] using passed
      obtain ⟨rest,rfl⟩ := List.head?_eq_some_iff.mp comment
      simp [withDeclared]

theorem store_withDeclared (r : Reader) (declared : Option Declaration) (f : Fragment) :
    (r.withDeclared declared).store f = (r.store f).map (·.withDeclared declared) := by
  unfold store
  cases f.toClause <;> rfl

theorem extend_withDeclared (r : Reader) (declared : Option Declaration) (f : Fragment) (data : List Char) :
    (r.withDeclared declared).extend f data = (r.extend f data).map (·.withDeclared declared) := by
  unfold extend
  dsimp only
  split
  · exact store_withDeclared r declared _
  · rfl

theorem feed_withDeclared (r : Reader) (declared : Option Declaration) (l : NumberedLine) :
    (r.withDeclared declared).feed l = (r.feed l).map (·.withDeclared declared) := by
  unfold feed readData
  by_cases preamble : (!r.inBlock && !opensBlock (Text.trim l.text)) = true
  · rw [if_pos preamble,if_pos (by exact preamble)]
    rfl
  · rw [if_neg preamble,if_neg (by exact preamble)]
    cases pending : r.pending with
    | none =>
      simp only [withDeclared,pending]
      split
      · rfl
      · exact extend_withDeclared ⟨r.declared,r.clauses,none,true⟩ declared _ _
    | some f =>
      simp only [withDeclared,pending]
      exact extend_withDeclared ⟨r.declared,r.clauses,some f,true⟩ declared f _

theorem feed_declared {r after : Reader} (fed : r.feed l = .ok after) : after.declared = r.declared := by
  have same := feed_withDeclared r r.declared l
  rw [show r.withDeclared r.declared = r from rfl,fed] at same
  have unchanged : after = after.withDeclared r.declared := Except.ok.inj same
  rw [unchanged]
  rfl

-- Induction is on the lines, with the reader and the number free.
theorem readLines_exact (r : Reader) (number : Nat) (lines : List (List Char)) :
    r.readLines number lines = (dataLines (numberFrom number lines)).foldlM feed
      (r.withDeclared (r.declared.or (declaration? (numberFrom number lines)))) := by
  induction lines generalizing r number with
  | nil => simp [readLines,numberFrom,dataLines,declaration?,content,withDeclared,pure,Except.pure]
  | cons text lines ih =>
    rw [readLines,numberFrom]
    cases ends : NumberedLine.endsData ⟨number,text⟩ with
    | true =>
      rw [readLine_endMarker r ends,dataLines,declaration?,content_end ends]
      simp [withDeclared,pure,Except.pure]
    | false =>
      rw [declaration?_more ends]
      cases passed : NumberedLine.isPassedOver ⟨number,text⟩ with
      | true =>
        rw [readLine_passedOver r ends passed,dataLines_passed ends passed,← Option.or_assoc]
        exact ih _ _
      | false =>
        rw [readLine_data r ends passed,dataLines_kept ends passed,promised?_kept passed,Option.none_or,
          List.foldlM_cons,feed_withDeclared]
        cases fed : r.feed ⟨number,text⟩ with
        | error cause => rfl
        | ok after =>
          have same := ih after (number + 1)
          rw [feed_declared fed] at same
          exact same

-- The reader is inside the block, and its fragment is the text of the lines held back.
structure Holds (r : Reader) (held : Option Group) : Prop where
  inBlock : r.inBlock = true
  pending : r.pending = held.map Group.fragment
  unfinished : ∀ g ∈ held, g.Open ∧ g.Solid

def withGroup (r : Reader) (g : Group) : Reader := { r with pending := some g.fragment }

def withClauses (r : Reader) (clauses : List Clause) : Reader :=
  { r with clauses := r.clauses ++ clauses,pending := none }

section Feeding
variable {r : Reader} {held : Option Group} {l : NumberedLine}

theorem Holds.cleared (holds : r.Holds held) (clauses : List Clause) : (r.withClauses clauses).Holds none :=
  ⟨holds.inBlock,rfl,by simp⟩

theorem Holds.grown (holds : r.Holds held) (solid : l.tokens ≠ []) (more : l.closes = false) :
    (r.withGroup (Group.grow held l)).Holds (some (Group.grow held l)) := by
  refine ⟨holds.inBlock,rfl,?_⟩
  intro g same
  cases same
  exact ⟨grow_each (fun g member => (holds.unfinished g member).1) more,
    grow_each (fun g member => (holds.unfinished g member).2) solid⟩

theorem extend_grow (r : Reader) (held : Option Group) (solid : l.tokens ≠ [])
    (extended : f.extend data = (Group.grow held l).fragment) :
    r.extend f data =
      if l.closes then (Group.grow held l).toClause.map fun clause => r.withClauses [clause]
      else .ok (r.withGroup (Group.grow held l)) := by
  have solidLast : (Group.grow held l).last.tokens ≠ [] := by rwa [grow_last]
  unfold Reader.extend
  dsimp only
  rw [extended,Group.isTerminated_fragment solidLast,Group.isTerminated,grow_last]
  cases l.closes with
  | true =>
    rw [if_pos rfl,if_pos rfl,store,Group.toClause_fragment solidLast]
    rfl
  | false => rfl

theorem feed_bareZero (holds : r.Holds none) (bare : l.tokens = [['0']]) : r.feed l = .ok r := by
  obtain ⟨inBlock,pending,_⟩ := holds
  have data : Text.trim l.text = ['0'] := Text.trim_single bare
  obtain ⟨declared,clauses,fragment,inside⟩ := r
  cases inBlock
  cases pending
  simp [feed,readData,data]

theorem feed_grow (holds : r.Holds held) (solid : l.tokens ≠ [])
    (counted : (Group.grow held l).isBareZero = false) :
    r.feed l =
      if l.closes then (Group.grow held l).toClause.map fun clause => r.withClauses [clause]
      else .ok (r.withGroup (Group.grow held l)) := by
  obtain ⟨inBlock,pending,unfinished⟩ := holds
  obtain ⟨declared,clauses,fragment,inside⟩ := r
  cases inBlock
  cases pending
  cases held with
  | none =>
    have data : Text.trim l.text ≠ ['0'] := by
      intro zero
      have bare : l.tokens = [['0']] := by
        unfold NumberedLine.tokens
        rw [← Text.tokens_trim,zero]
        decide
      simp [Group.grow,Group.isBareZero,bare] at counted
    simp only [feed,readData,Bool.not_true,Bool.false_and,Bool.false_eq_true,if_false,if_neg data]
    exact extend_grow _ none solid (Group.fragment_start l)
  | some g =>
    have extended := Group.fragment_extend ((unfinished g rfl).2 _ List.mem_cons_self) l
    simp only [feed,readData,Bool.not_true,Bool.false_and,Bool.false_eq_true,if_false]
    exact extend_grow _ (some g) solid extended

end Feeding

def settle (r : Reader) (gs : List Group) : Except ReadError Reader :=
  ((gs.filter (·.isTerminated)).mapM Group.toClause).map fun clauses =>
    { r with
      clauses := r.clauses ++ clauses
      pending := (gs.find? (!·.isTerminated)).map Group.fragment }

theorem settle_terminated (r : Reader) {g : Group} (terminated : g.isTerminated = true) (gs : List Group) :
    r.settle (g :: gs) = g.toClause.bind fun clause => (r.withClauses [clause]).settle gs := by
  unfold settle
  rw [List.filter_cons_of_pos terminated,List.find?_cons_of_neg (by simp [terminated])]
  cases first : g.toClause with
  | error cause => rw [mapM_cons_error first]; rfl
  | ok clause =>
    rw [mapM_cons_ok first]
    cases (gs.filter (·.isTerminated)).mapM Group.toClause with
    | error cause => rfl
    | ok clauses => simp [Except.map,Except.bind,withClauses]

theorem settle_held {r : Reader} {held : Option Group} (holds : r.Holds held) :
    r.settle ((groups (heldLines held)).filter (!·.isBareZero)) = .ok r := by
  obtain ⟨_,pending,unfinished⟩ := holds
  obtain ⟨declared,clauses,fragment,inside⟩ := r
  cases pending
  cases held with
  | none => simp [settle,heldLines,groups,pure,Except.pure,Except.map]
  | some g =>
    obtain ⟨stillOpen,_⟩ := unfinished g rfl
    change settle _ ((groups g.lines).filter _) = _
    have unfinished := open_unterminated stillOpen
    simp [groups_open stillOpen,unterminated_counted unfinished,unfinished,settle,
      pure,Except.pure,Except.map]

-- Induction is on the lines. What is held back grows on the way.
theorem foldlM_feed {r : Reader} {held : Option Group} (holds : r.Holds held)
    (solid : ∀ l ∈ ls, NumberedLine.tokens l ≠ []) :
    ls.foldlM feed r = r.settle ((groups (heldLines held ++ ls)).filter (!·.isBareZero)) := by
  induction ls generalizing r held with
  | nil => rw [List.append_nil,settle_held holds]; rfl
  | cons l ls ih =>
    obtain ⟨solidFirst,solidRest⟩ := List.forall_mem_cons.mp solid
    have unfinished : ∀ g ∈ held, g.Open := fun g member => (holds.unfinished g member).1
    rw [List.foldlM_cons]
    cases bare : (Group.grow held l).isBareZero with
    | true =>
      obtain ⟨rfl,zero⟩ := grow_bareZero bare
      rw [feed_bareZero holds zero,groups_close unfinished (closes_bareZero zero),
        List.filter_cons_of_neg (by simp [bare])]
      exact ih holds solidRest
    | false =>
      rw [feed_grow holds solidFirst bare]
      cases closing : l.closes with
      | true =>
        have terminated : (Group.grow held l).isTerminated = true := by rw [Group.isTerminated,grow_last,closing]
        rw [groups_close unfinished closing,List.filter_cons_of_pos (by simp [bare]),settle_terminated r terminated]
        cases (Group.grow held l).toClause with
        | error cause => rfl
        | ok clause => exact ih (holds.cleared [clause]) solidRest
      | false =>
        have lines : heldLines held ++ l :: ls = heldLines (some (Group.grow held l)) ++ ls := by
          simp [heldLines,grow_lines]
        rw [lines]
        exact ih (holds.grown solidFirst closing) solidRest

theorem feed_preamble {r : Reader} (outside : r.inBlock = false) (preamble : l.opens = false) :
    r.feed l = .ok r := by
  simp [feed,readData,outside,opensBlock_trim,preamble]

theorem feed_opening (r : Reader) (opening : l.opens = true) :
    r.feed l = ({ r with inBlock := true } : Reader).feed l := by
  simp [feed,readData,opensBlock_trim,opening]

theorem foldlM_preamble {r : Reader} (outside : r.inBlock = false) (ls : List NumberedLine) :
    ls.foldlM feed r =
      (ls.dropWhile (!·.opens)).foldlM feed { r with inBlock := !(ls.dropWhile (!·.opens)).isEmpty } := by
  induction ls with
  | nil => simp [← outside]
  | cons l ls ih =>
    cases opening : l.opens with
    | true =>
      rw [List.dropWhile_cons_of_neg (by simp [opening]),List.foldlM_cons,List.foldlM_cons,feed_opening r opening]
      rfl
    | false =>
      rw [List.dropWhile_cons_of_pos (by simp [opening]),List.foldlM_cons,feed_preamble outside opening]
      exact ih

end Reader

section Reading
variable (lines : List (List Char))

def Reader.primed (lines : List NumberedLine) : Reader :=
  ⟨declaration? lines,[],none,!(clauseBlock lines).isEmpty⟩

-- The group that nothing terminates is the pending fragment.
theorem readLines_groups : Reader.start.readLines 1 lines =
    (Reader.primed (numberFrom 1 lines)).settle (clauseGroups (numberFrom 1 lines)) := by
  rw [Reader.readLines_exact,Reader.foldlM_preamble rfl]
  change (clauseBlock (numberFrom 1 lines)).foldlM Reader.feed (Reader.primed (numberFrom 1 lines)) = _
  have kept : ∀ l ∈ clauseBlock (numberFrom 1 lines), l.tokens ≠ [] :=
    fun l member => kept_tokens (clauseBlock_kept member).2
  unfold clauseGroups Reader.primed
  cases block : clauseBlock (numberFrom 1 lines) with
  | nil => rfl
  | cons l rest =>
    rw [block] at kept
    have idle : Reader.Holds ⟨declaration? (numberFrom 1 lines),[],none,true⟩ none := ⟨rfl,rfl,by simp⟩
    exact Reader.foldlM_feed idle kept

theorem close_settle (r : Reader) {gs : List Group} (solid : ∀ g ∈ gs, g.Solid)
    (terminated : gs.Pairwise fun g _ => g.isTerminated = true) :
    (r.settle gs).bind Reader.close = (gs.mapM Group.toClause).map r.withClauses := by
  have parts : gs.mapM Group.toClause =
      (gs.filter (·.isTerminated) ++ (gs.find? (!·.isTerminated)).toList).mapM Group.toClause :=
    congrArg _ (terminated_parts terminated)
  rw [parts,Reader.settle]
  cases settled : (gs.filter (·.isTerminated)).mapM Group.toClause with
  | error cause => rw [mapM_append_error settled]; rfl
  | ok clauses =>
    rw [mapM_append_ok settled]
    cases found : gs.find? (!·.isTerminated) with
    | none => simp [Except.map,Except.bind,Reader.close,Reader.withClauses,pure,Except.pure]
    | some g =>
      have solidLast := solid g (List.mem_of_find?_eq_some found) _ g.last_mem
      simp only [Except.map,Except.bind,Reader.close,Option.map_some,Reader.store,Group.toClause_fragment solidLast,
        Option.toList_some]
      cases last : g.toClause with
      | error cause => rw [mapM_cons_error last]
      | ok clause => simp [mapM_cons_ok last,Except.map,Reader.withClauses,pure,Except.pure]

theorem parseLines_split :
    parseLines lines = ((Reader.start.readLines 1 lines).bind Reader.close).map Reader.result := by
  unfold parseLines
  cases Reader.start.readLines 1 lines with
  | error cause => rfl
  | ok r => cases closing : r.close <;> simp [bind,Except.bind,Except.map,closing,pure,Except.pure]

theorem parseLines_groups : parseLines lines =
    ((clauseGroups (numberFrom 1 lines)).mapM Group.toClause).map fun clauses =>
      .compare (declaration? (numberFrom 1 lines)) ⟨clauses⟩ := by
  have closed := close_settle (Reader.primed (numberFrom 1 lines))
    (fun g member => clauseGroups_solid member) (clauseGroups_terminated (numberFrom 1 lines))
  rw [parseLines_split,readLines_groups,closed]
  cases (clauseGroups (numberFrom 1 lines)).mapM Group.toClause <;> rfl

end Reading
end CnfSearch.Dimacs
