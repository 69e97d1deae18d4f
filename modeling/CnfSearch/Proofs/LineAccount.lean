import CnfSearch.Dimacs.Remarks
import CnfSearch.Proofs.Continuation
import CnfSearch.Proofs.Evaluation

-- What reading a text tells, line by line.
namespace CnfSearch.Dimacs
open Traversal

section Pending
variable {gs : List Group}

theorem find?_unterminated (gs : List Group) :
    (gs.filter (!·.isBareZero)).find? (!·.isTerminated) = gs.find? (!·.isTerminated) := by
  rw [List.find?_filter]
  apply List.find?_congr
  intro g _
  cases ended : g.isTerminated with
  | true => simp
  | false => simp [unterminated_counted ended]

theorem unterminated_last (terminated : gs.Pairwise fun g _ => g.isTerminated = true) :
    gs.find? (!·.isTerminated) = gs.getLast?.filter (!·.isTerminated) := by
  induction gs with
  | nil => rfl
  | cons g gs ih =>
    obtain ⟨followed,rest⟩ := List.pairwise_cons.mp terminated
    cases gs with
    | nil => cases ended : g.isTerminated <;> simp [ended,Option.filter]
    | cons next more =>
      have ended : g.isTerminated = true := followed next List.mem_cons_self
      rw [List.find?_cons_of_neg (by simp [ended]),ih rest,List.getLast?_cons_cons]

-- No clause is under way when the last line of the block ends with a zero, or there is none.
def settled (before : List NumberedLine) : Bool := (clauseBlock before).getLast?.all NumberedLine.closes

theorem groups_settled (ls : List NumberedLine) :
    ((groups ls).find? (!·.isTerminated)).isNone = ls.getLast?.all NumberedLine.closes := by
  induction ls with
  | nil => rfl
  | cons l ls ih =>
    unfold groups
    cases ls with
    | nil => cases closing : l.closes <;> simp [groups,joinFirst,Group.isTerminated,Group.last,closing]
    | cons next more =>
      rw [List.getLast?_cons_cons,← ih]
      split
      · rename_i closing
        rw [List.find?_cons_of_neg (by simpa [Group.isTerminated,Group.last] using closing)]
      · cases cut : groups (next :: more) with
        | nil =>
          have lines := groups_lines (next :: more)
          simp [cut] at lines
        | cons g gs =>
          have same := isTerminated_cons l g
          cases ended : g.isTerminated <;> simp_all [joinFirst]

end Pending

-- A data line is told of only if it takes part in no clause.
def NumberedLine.account (before : List NumberedLine) (l : NumberedLine) : List (Severity × Event) :=
  if l.tokens.head? = some ['p'] then
    if l.promised?.isSome then
      (if 4 < l.tokens.length then [(.warn,.trailingTokens (l.tokens.length - 4))] else []) ++
      (if before.any (·.promised?.isSome) then [(.warn,.repeatedProblem l.number)] else [])
    else [(.warn,.malformedProblem l.number (Text.trim l.text))]
  else if l.isPassedOver then []
  else if clauseBlock before = [] ∧ l.opens = false then [(.debug,.preamble l.number)]
  else if settled before ∧ l.tokens = [['0']] then [(.warn,.emptyClause l.number)]
  else []

def accounts (before : List NumberedLine) : List NumberedLine → List (Severity × Event)
  | [] => []
  | l :: rest => l.account before ++ accounts (before ++ [l]) rest

namespace Reader

theorem readLines_state {r : Reader} {lines : List (List Char)} (read : start.readLines 1 lines = .ok r) :
    r.declared = declaration? (numberFrom 1 lines) ∧ r.inBlock = !(clauseBlock (numberFrom 1 lines)).isEmpty ∧
      r.pending = ((clauseGroups (numberFrom 1 lines)).find? (!·.isTerminated)).map Group.fragment ∧
      ∀ g ∈ clauseGroups (numberFrom 1 lines), g.isTerminated = true → ∃ c, g.toClause = .ok c := by
  rw [readLines_groups,settle] at read
  cases stored : ((clauseGroups (numberFrom 1 lines)).filter (·.isTerminated)).mapM Group.toClause with
  | error cause => rw [stored] at read; cases read
  | ok clauses =>
    rw [stored] at read
    cases read
    refine ⟨rfl,rfl,rfl,?_⟩
    intro g member ended
    exact mapM_ok_each stored g (List.mem_filter.mpr ⟨member,ended⟩)

-- The state that lines without an end marker put the reader in.
structure After (before : List NumberedLine) (r : Reader) : Prop where
  declared : r.declared.isSome = before.any (·.promised?.isSome)
  inBlock : r.inBlock = !(clauseBlock before).isEmpty
  pending : r.pending.isNone = settled before

structure Through (lines : List (List Char)) (r : Reader) : Prop where
  more : ∀ l ∈ numberFrom 1 lines, l.endsData = false
  read : start.readLines 1 lines = .ok r

theorem through_none : Through [] start := ⟨by simp [numberFrom],rfl⟩

theorem Through.after {r : Reader} {lines : List (List Char)} (through : Through lines r) :
    r.After (numberFrom 1 lines) := by
  obtain ⟨more,read⟩ := through
  obtain ⟨declared,inBlock,pending,_⟩ := readLines_state read
  have all : content (numberFrom 1 lines) = numberFrom 1 lines :=
    List.takeWhile_eq_self_iff.mpr fun l member => by simp [more l member]
  refine ⟨?_,inBlock,?_⟩
  · rw [declared,declaration?,all,List.isSome_findSome?]
  · rw [pending,Option.isNone_map,clauseGroups,find?_unterminated,groups_settled,settled]

section Line
variable {before : List NumberedLine} {l : NumberedLine} {r : Reader}

theorem read?_trailing {fields : List (List Char)} (read : Declaration.read? fields = some (d,trailing)) :
    fields.length = trailing + 3 := by
  unfold Declaration.read? at read
  split at read
  · split at read
    · split at read
      · cases read
        rfl
      · cases read
    · cases read
  · cases read

theorem remarks_problem (after : r.After before) (problem : l.tokens.head? = some ['p']) :
    (r.remarks l.number l.text).map Event.record = l.account before := by
  obtain ⟨fields,found⟩ := List.head?_eq_some_iff.mp problem
  have promised : l.promised? = (Declaration.read? fields).map Prod.fst := by
    simp [NumberedLine.promised?,found]
  have tokens : Text.tokens l.text = ['p'] :: fields := found
  unfold remarks NumberedLine.account
  rw [if_pos problem,promised,← after.declared]
  cases given : Declaration.read? fields with
  | none =>
    have read : Line.read l.text = .malformedProblem (Text.trim l.text) := by
      simp [Line.read,Text.tokens_trim,tokens,given]
    rw [read]
    rfl
  | some counts =>
    obtain ⟨declared,trailing⟩ := counts
    have read : Line.read l.text = .problem declared trailing := by
      simp [Line.read,Text.tokens_trim,tokens,given]
    have count : l.tokens.length = trailing + 4 := by rw [found,List.length_cons,read?_trailing given]
    rw [read]
    simp only [count]
    cases declaredBefore : r.declared.isSome <;> cases trailing <;> simp [Event.record,Event.severity]

theorem remarks_passedOver (passed : l.isPassedOver = true)
    (other : l.tokens.head? ≠ some ['p']) : (r.remarks l.number l.text).map Event.record = l.account before := by
  unfold NumberedLine.account
  rw [if_neg other,if_pos passed]
  unfold NumberedLine.isPassedOver NumberedLine.tokens at passed
  unfold NumberedLine.tokens at other
  unfold remarks Line.read
  simp only [Text.tokens_trim]
  cases found : Text.tokens l.text with
  | nil => rfl
  | cons first fields =>
    have comment : first.head? = some 'c' := by simp_all
    obtain ⟨rest,rfl⟩ := List.head?_eq_some_iff.mp comment
    simp

theorem remarks_data (after : r.After before) (more : l.endsData = false) (kept : l.isPassedOver = false) :
    (r.remarks l.number l.text).map Event.record = l.account before := by
  have other : l.tokens.head? ≠ some ['p'] := by
    intro problem
    simp [NumberedLine.isPassedOver,problem] at kept
  have bare : Text.trim l.text = ['0'] ↔ l.tokens = [['0']] := by
    constructor
    · intro zero
      rw [NumberedLine.tokens,← Text.tokens_trim,zero]
      decide
    · exact Text.trim_single
  unfold remarks NumberedLine.account
  rw [read_data more kept,if_neg other,kept]
  simp only [dataRemarks,opensBlock_trim,after.inBlock,after.pending,bare]
  by_cases outside : clauseBlock before = [] ∧ l.opens = false
  · simp [outside,Event.record,Event.severity]
  · by_cases empty : settled before = true ∧ l.tokens = [['0']]
    · simp [outside,empty,Event.record,Event.severity]
    · simp [outside,empty]

theorem remarks_account (after : r.After before) (more : l.endsData = false) :
    (r.remarks l.number l.text).map Event.record = l.account before := by
  cases passed : l.isPassedOver with
  | false => exact remarks_data after more passed
  | true =>
    by_cases problem : l.tokens.head? = some ['p']
    · exact remarks_problem after problem
    · exact remarks_passedOver passed problem

end Line

section Run
variable {before : List NumberedLine} {r : Reader} {number : Nat} {xs texts : List (List Char)}

theorem readLine_more {l : NumberedLine} {p : Progress} (more : l.endsData = false)
    (read : r.readLine l.number l.text = .ok p) : p.ended = false := by
  cases passed : l.isPassedOver with
  | true =>
    rw [readLine_passedOver r more passed] at read
    cases read
    rfl
  | false =>
    rw [readLine_data r more passed] at read
    cases fed : r.feed l with
    | error cause => rw [fed] at read; cases read
    | ok after => rw [fed] at read; cases read; rfl

theorem readLine_refused {l : NumberedLine} (more : l.endsData = false)
    (failed : r.readLine l.number l.text = .error e) : l.isPassedOver = false ∧ r.feed l = .error e := by
  cases passed : l.isPassedOver with
  | true =>
    rw [readLine_passedOver r more passed] at failed
    cases failed
  | false =>
    rw [readLine_data r more passed] at failed
    refine ⟨rfl,?_⟩
    cases fed : r.feed l with
    | error cause => rw [fed] at failed; cases failed; rfl
    | ok after => rw [fed] at failed; cases failed

-- A line that is refused is in the block and takes part in a clause.
theorem remarks_refused {text : List Char} (failed : r.readLine number text = .error e) :
    r.remarks number text = [] := by
  unfold readLine at failed
  unfold remarks
  cases kind : Line.read text with
  | data data =>
    simp only [kind] at failed ⊢
    unfold readData at failed
    unfold dataRemarks
    split at failed
    · cases failed
    · rename_i begun
      rw [if_neg begun]
      cases pending : r.pending with
      | some f => simp
      | none =>
        simp only [pending] at failed
        split at failed
        · cases failed
        · rename_i counted
          simp [counted]
  | blank => rfl
  | comment => rfl
  | endMarker => rfl
  | malformedProblem text => simp [kind] at failed
  | problem declared trailing => simp [kind] at failed

-- The clauses that end before the line can be read, and the one that it ends cannot.
structure FailsAt (front : List NumberedLine) (l : NumberedLine) (e : ReadError) : Prop where
  earlier : ∀ g ∈ clauseGroups front, g.isTerminated = true → ∃ c, g.toClause = .ok c
  closes : l.closes = true
  refused : (Group.grow ((clauseGroups front).find? (!·.isTerminated)) l).toClause = .error e

theorem extend_refused {held : Option Group} {l : NumberedLine} (solid : l.tokens ≠ [])
    (extended : f.extend data = (Group.grow held l).fragment) (failed : r.extend f data = .error e) :
    l.closes = true ∧ (Group.grow held l).toClause = .error e := by
  rw [extend_grow r held solid extended] at failed
  split at failed
  · rename_i closing
    refine ⟨closing,?_⟩
    cases read : (Group.grow held l).toClause with
    | error cause => rw [read] at failed; cases failed; rfl
    | ok c => rw [read] at failed; cases failed
  · cases failed

theorem Through.failsAt {l : NumberedLine} (through : Through xs r) (more : l.endsData = false)
    (failed : r.readLine l.number l.text = .error e) : FailsAt (numberFrom 1 xs) l e := by
  obtain ⟨_,_,pending,earlier⟩ := readLines_state through.read
  obtain ⟨kept,refused⟩ := readLine_refused more failed
  have solid := kept_tokens kept
  unfold feed readData at refused
  split at refused
  · cases refused
  · cases held : (clauseGroups (numberFrom 1 xs)).find? (!·.isTerminated) with
    | none =>
      rw [held] at pending
      simp only [pending,Option.map_none] at refused
      split at refused
      · cases refused
      · obtain ⟨closes,unread⟩ := extend_refused solid (Group.fragment_start l) refused
        exact ⟨earlier,closes,by rw [held]; exact unread⟩
    | some g =>
      have first := clauseGroups_solid (List.mem_of_find?_eq_some held) _ List.mem_cons_self
      rw [held] at pending
      simp only [pending,Option.map_some] at refused
      obtain ⟨closes,unread⟩ := extend_refused solid (Group.fragment_extend first l) refused
      exact ⟨earlier,closes,by rw [held]; exact unread⟩

theorem readLines_append (more : ∀ l ∈ numberFrom number xs, l.endsData = false) (ys : List (List Char)) :
    r.readLines number (xs ++ ys) = (r.readLines number xs).bind (·.readLines (number + xs.length) ys) := by
  induction xs generalizing r number with
  | nil => rfl
  | cons text xs ih =>
    obtain ⟨first,rest⟩ := List.forall_mem_cons.mp more
    rw [List.cons_append,readLines,readLines]
    cases read : r.readLine number text with
    | error cause => rfl
    | ok p =>
      obtain ⟨after,ended⟩ := p
      obtain rfl : ended = false := readLine_more (l := ⟨number,text⟩) first read
      change after.readLines (number + 1) (xs ++ ys) = (after.readLines (number + 1) xs).bind _
      rw [ih rest,List.length_cons,Nat.add_right_comm,Nat.add_assoc]

theorem Through.next {after : Reader} (through : Through xs r)
    (more : NumberedLine.endsData ⟨1 + xs.length,text⟩ = false)
    (read : r.readLine (1 + xs.length) text = .ok ⟨after,false⟩) : Through (xs ++ [text]) after := by
  constructor
  · rw [numberFrom_append]
    exact List.forall_mem_append.mpr ⟨through.more,List.forall_mem_singleton.mpr more⟩
  · rw [readLines_append through.more,through.read]
    change r.readLines (1 + xs.length) [text] = _
    rw [readLines,read]
    rfl

def Accounted (before lines : List NumberedLine) (records : List (Severity × Event)) : Except ReadError Reader → Prop
  | .ok after => records = accounts before lines ++ after.closingRemarks.map Event.record
  | .error e => ∃ front l rest, lines = front ++ l :: rest ∧ FailsAt (before ++ front) l e ∧
      records = accounts before front

theorem Accounted.cons {lines : List NumberedLine} {result : Except ReadError Reader}
    (told : Accounted (before ++ [l]) lines records result) :
    Accounted before (l :: lines) (l.account before ++ records) result := by
  cases result with
  | ok after =>
    have all : records = accounts (before ++ [l]) lines ++ after.closingRemarks.map Event.record := told
    simp only [Accounted,accounts,all,List.append_assoc]
  | error e =>
    obtain ⟨front,refused,rest,parts,fails,all⟩ := told
    refine ⟨l :: front,refused,rest,by rw [parts]; rfl,?_,by rw [all]; rfl⟩
    rwa [List.append_cons]

-- Induction is on the lines to come, with the lines that have been read free.
theorem lineRemarks_accounts (through : Through xs r) (texts : List (List Char)) :
    Accounted (numberFrom 1 xs) (content (numberFrom (1 + xs.length) texts))
      ((r.lineRemarks (1 + xs.length) texts).map Event.record) (r.readLines (1 + xs.length) texts) := by
  induction texts generalizing r xs with
  | nil => rfl
  | cons text texts ih =>
    rw [numberFrom,readLines,lineRemarks,List.map_append]
    cases ends : NumberedLine.endsData ⟨1 + xs.length,text⟩ with
    | true =>
      have silent : r.remarks (1 + xs.length) text = [] := by
        rw [remarks,read_endMarker (l := ⟨1 + xs.length,text⟩) ends]
      rw [readLine_endMarker r (l := ⟨1 + xs.length,text⟩) ends,silent,content_end ends]
      rfl
    | false =>
      rw [content_more ends]
      cases next : r.readLine (1 + xs.length) text with
      | error cause =>
        rw [remarks_refused next]
        refine ⟨[],_,_,rfl,?_,rfl⟩
        rw [List.append_nil]
        exact through.failsAt ends next
      | ok p =>
        obtain ⟨after,ended⟩ := p
        obtain rfl : ended = false := readLine_more (l := ⟨1 + xs.length,text⟩) ends next
        have rest := ih (through.next ends next)
        rw [List.length_append,List.length_singleton,← Nat.add_assoc,numberFrom_append] at rest
        rw [remarks_account through.after ends]
        exact rest.cons

end Run

end Reader

def tailAccount (gs : List Group) : List (Severity × Event) :=
  ((gs.getLast?.filter (!·.isTerminated)).map fun g => (.warn,.unterminated g.line)).toList

section Text
variable {text : String} {r : Reader} (read : Reader.start.readLines 1 (Text.lines text.toList) = .ok r)
include read

theorem readText_pending : r.pending = ((textGroups text).getLast?.filter (!·.isTerminated)).map Group.fragment := by
  have terminated : (textGroups text).Pairwise fun g _ => g.isTerminated = true := clauseGroups_terminated _
  rw [← unterminated_last terminated]
  exact (Reader.readLines_state read).2.2.1

theorem closingRemarks_account : r.closingRemarks.map Event.record = tailAccount (textGroups text) ++
    match r.close with
    | .error _ => []
    | .ok closed => [(.debug,.parsed closed.formula.numClauses closed.formula.numVariables)] := by
  unfold Reader.closingRemarks tailAccount
  rw [List.map_append,readText_pending read]
  congr 1
  · cases (textGroups text).getLast?.filter (!·.isTerminated) <;> rfl
  · cases r.close <;> rfl

theorem close_error (failed : r.close = .error e) :
    ∃ g, (textGroups text).getLast? = some g ∧ g.isTerminated = false ∧ g.toClause = .error e := by
  rw [Reader.close,readText_pending read] at failed
  cases last : (textGroups text).getLast? with
  | none => rw [last] at failed; cases failed
  | some g =>
    rw [last] at failed
    cases ended : g.isTerminated with
    | true => simp [Option.filter,ended] at failed
    | false =>
      have solid := clauseGroups_solid (List.mem_of_getLast? last) _ g.last_mem
      simp only [Option.filter,ended,Bool.not_false,if_true,Option.map_some,Reader.store,
        Group.toClause_fragment solid] at failed
      refine ⟨g,rfl,ended,?_⟩
      cases refused : g.toClause with
      | error cause => rw [refused] at failed; cases failed; rfl
      | ok c => rw [refused] at failed; cases failed

end Text

theorem parseRemarks_accounts (text : String) :
    let records := ((parseRemarks text).filter (Interest.upTo (some .trace))).map Event.record
    let lines := content (numberFrom 1 (Text.lines text.toList))
    (∀ p, parse text = .ok p → records = accounts [] lines ++ tailAccount (textGroups text) ++
      [(.debug,.parsed p.formula.clauses.length p.formula.occurring.dedup.length)]) ∧
    ∀ e, parse text = .error e →
      (∃ front l rest, lines = front ++ l :: rest ∧ Reader.FailsAt front l e ∧ records = accounts [] front) ∨
      ∃ g, (textGroups text).getLast? = some g ∧ g.isTerminated = false ∧ g.toClause = .error e ∧
        records = accounts [] lines ++ [(.warn,.unterminated g.line)] := by
  intro records lines
  have told := Reader.lineRemarks_accounts Reader.through_none (Text.lines text.toList)
  have all : records = (Reader.start.lineRemarks 1 (Text.lines text.toList)).map Event.record := by
    rw [← parseRemarks,← Interest.upTo_trace (parseRemarks text)]
  have split : parse text = _ := parseLines_split (Text.lines text.toList)
  rw [all,split]
  cases read : Reader.start.readLines 1 (Text.lines text.toList) with
  | error cause =>
    rw [List.length_nil,read] at told
    refine ⟨by simp [Except.bind,Except.map],?_⟩
    intro e failed
    cases failed
    exact .inl told
  | ok r =>
    rw [List.length_nil,read] at told
    have told : (Reader.start.lineRemarks 1 (Text.lines text.toList)).map Event.record =
        accounts [] lines ++ r.closingRemarks.map Event.record := told
    rw [told,closingRemarks_account read]
    constructor
    · intro p parsed
      cases closing : r.close with
      | error cause => rw [Except.bind,closing] at parsed; cases parsed
      | ok closed =>
        rw [Except.bind,closing] at parsed
        cases parsed
        rw [Reader.result,Parsed.compare_formula,← Formula.numVariables_distinct,List.append_assoc]
        rfl
    · intro e failed
      cases closing : r.close with
      | ok closed => rw [Except.bind,closing] at failed; cases failed
      | error cause =>
        rw [Except.bind,closing] at failed
        cases failed
        obtain ⟨g,last,ended,refusedTail⟩ := close_error read closing
        refine .inr ⟨g,last,ended,refusedTail,?_⟩
        simp [tailAccount,last,ended,Option.filter]

-- The first line is no data yet, the zero of the fifth belongs to no clause, and the last
-- clause has no zero.
example : (parseRemarks "x 0\np cnf 1 1 end\n1 0\np cnf 2 2\n0\np\n2").map Event.record =
    [(.debug,.preamble 1),(.warn,.trailingTokens 1),(.warn,.repeatedProblem 4),(.warn,.emptyClause 5),
      (.warn,.malformedProblem 6 ['p']),(.warn,.unterminated 7),(.debug,.parsed 2 2)] := by decide +kernel

end CnfSearch.Dimacs
