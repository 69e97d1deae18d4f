import CnfSearch.Proofs.Correspondence
import CnfSearch.Proofs.Promise

namespace CnfSearch.Dimacs

-- One row of a text that is laid out anew: a row that was there, as it was and as it is
-- now, or a row that is put in.
inductive Revision where
  | kept (before after : List Char)
  | added (row : List Char)

namespace Revision

def before (rs : List Revision) : List (List Char) :=
  rs.filterMap fun
    | .kept before _ => some before
    | .added _ => none

def after (rs : List Revision) : List (List Char) :=
  rs.map fun
    | .kept _ after => after
    | .added row => row

def addedBefore : List Revision → Nat → Nat
  | [],_ => 0
  | .added _ :: rs,number => addedBefore rs number + 1
  | .kept _ _ :: rs,number => if number ≤ 1 then 0 else addedBefore rs (number - 1)

@[simp] theorem before_kept : before (.kept old new :: rs) = old :: before rs := rfl
@[simp] theorem before_added : before (.added row :: rs) = before rs := rfl
@[simp] theorem after_kept : after (.kept old new :: rs) = new :: after rs := rfl
@[simp] theorem after_added : after (.added row :: rs) = row :: after rs := rfl

theorem addedBefore_first (number : Nat) : addedBefore (.kept old new :: rs) (number + 1 - number) = 0 := by
  rw [addedBefore,if_pos (by omega)]

theorem addedBefore_next (later : number < line) :
    addedBefore (.kept old new :: rs) (line + 1 - number) = addedBefore rs (line + 1 - (number + 1)) := by
  rw [addedBefore,if_neg (by omega)]
  congr 1

end Revision

-- A well-formed problem line means nothing only after another.
inductive Idle (promised : Prop) (row : List Char) : Prop where
  | blank (tokens : Text.tokens row = [])
  | comment (tokens : Text.tokens row = ('c' :: name) :: rest)
  | malformed (tokens : Text.tokens row = ['p'] :: fields) (unreadable : ∀ d, ¬ Promises row d)
  | repeated (tokens : Text.tokens row = ['p'] :: fields) (earlier : promised)

-- The tokens of every old row stay, and only idle rows are put in.
inductive Harmless : (promised : Prop) → List Revision → Prop where
  | nil : Harmless promised []
  | kept (tokens : Text.tokens after = Text.tokens before)
      (rest : Harmless (promised ∨ ∃ d, Promises before d) rs) : Harmless promised (.kept before after :: rs)
  | added (idle : Idle promised row) (rest : Harmless promised rs) : Harmless promised (.added row :: rs)

section Idle
variable {promised : Prop} {row : List Char} (idle : Idle promised row) (number : Nat)
include idle

theorem Idle.more : NumberedLine.endsData ⟨number,row⟩ = false := by
  cases idle <;> simp_all [isEndMarker]

theorem Idle.passedOver : NumberedLine.isPassedOver ⟨number,row⟩ = true := by
  cases idle <;> simp_all [NumberedLine.isPassedOver,NumberedLine.tokens]

theorem Idle.silent (unpromised : ¬ promised) : NumberedLine.promised? ⟨number,row⟩ = none := by
  cases idle with
  | blank tokens => simp [NumberedLine.promised?,NumberedLine.tokens,tokens]
  | comment tokens => simp [NumberedLine.promised?,NumberedLine.tokens,tokens]
  | malformed _ unreadable => exact (promised?_none number row).mpr unreadable
  | repeated _ earlier => exact absurd earlier unpromised

end Idle

namespace Harmless
variable {promised : Prop} {rs : List Revision}

-- Induction is on the revision, with what has been promised on the way.
theorem declaration? (harmless : Harmless promised rs) (n k : Nat) (found : Option Declaration)
    (known : promised → found.isSome = true) :
    found.or (Dimacs.declaration? (numberFrom k (Revision.after rs))) =
      found.or (Dimacs.declaration? (numberFrom n (Revision.before rs))) := by
  induction harmless generalizing n k found with
  | nil => rfl
  | @kept after before promised rs tokens rest ih =>
    rw [Revision.before_kept,Revision.after_kept,numberFrom,numberFrom]
    have same : NumberedLine.tokens ⟨k,after⟩ = NumberedLine.tokens ⟨n,before⟩ := tokens
    cases ends : NumberedLine.endsData ⟨n,before⟩ with
    | true =>
      rw [Dimacs.declaration?,Dimacs.declaration?,content_end ends,content_end ((endsData_tokens same).trans ends)]
    | false =>
      rw [declaration?_more ends,declaration?_more ((endsData_tokens same).trans ends),promised?_tokens same,
        ← Option.or_assoc,← Option.or_assoc]
      apply ih
      rintro (earlier | ⟨d,promise⟩)
      · simp [known earlier]
      · simp [(promised?_exact n before).mpr promise]
  | @added promised row rs idle rest ih =>
    rw [Revision.before_added,Revision.after_added,numberFrom,declaration?_more (idle.more k),
      ← ih n (k + 1) found known,← Option.or_assoc]
    congr 1
    by_cases earlier : promised
    · exact Option.or_eq_left_of_isSome (known earlier)
    · rw [idle.silent k earlier,Option.or_none]

theorem dataLines (harmless : Harmless promised rs) (n a : Nat) :
    List.Forall₂ (fun l m => l.tokens = m.tokens ∧ n ≤ l.number ∧
        m.number = l.number + a + Revision.addedBefore rs (l.number + 1 - n))
      (Dimacs.dataLines (numberFrom n (Revision.before rs)))
      (Dimacs.dataLines (numberFrom (n + a) (Revision.after rs))) := by
  induction harmless generalizing n a with
  | nil => exact .nil
  | @kept after before promised rs tokens rest ih =>
    rw [Revision.before_kept,Revision.after_kept,numberFrom,numberFrom]
    apply dataLines_related fun _ _ placed => placed.1
    · exact ⟨tokens.symm,Nat.le_refl n,by rw [Revision.addedBefore_first]; rfl⟩
    · have later := ih (n + 1) a
      rw [Nat.add_right_comm] at later
      refine later.imp ?_
      rintro l m ⟨same,below,number⟩
      exact ⟨same,Nat.le_of_succ_le below,by rw [number,Revision.addedBefore_next below]⟩
  | @added promised row rs idle rest ih =>
    rw [Revision.before_added,Revision.after_added,numberFrom,dataLines_passed (idle.more _) (idle.passedOver _)]
    refine (ih n (a + 1)).imp ?_
    rintro l m ⟨same,below,number⟩
    refine ⟨same,below,?_⟩
    rw [number,Revision.addedBefore]
    omega

end Harmless

def Moved (rs : List Revision) (line : Nat) (clause : List Char) (line' : Nat) (clause' : List Char) : Prop :=
  line' = line + Revision.addedBefore rs line ∧ Text.tokens clause' = Text.tokens clause

theorem parseLines_revised (harmless : Harmless False rs) :
    Alike (Moved rs) (parseLines (Revision.before rs)) (parseLines (Revision.after rs)) := by
  have related := harmless.dataLines 1 0
  apply parseLines_alike (fun _ _ moved => moved.1) _ related
  · exact harmless.declaration? 1 1 none False.elim
  · intro g h matched
    refine ⟨?_,?_⟩
    · obtain ⟨l,later⟩ := g
      obtain ⟨m,more⟩ := h
      cases matched with
      | cons first _ => exact first.2.2
    · rw [Group.tokens_text,Group.tokens_text,matched.tokens fun _ _ moved => moved.1]

theorem readLines_blanks (blank : ∀ row ∈ more, Text.tokens row = []) (r : Reader) (number : Nat)
    (rows : List (List Char)) : r.readLines number (rows ++ more) = r.readLines number rows := by
  induction rows generalizing r number with
  | nil =>
    induction more generalizing r number with
    | nil => rfl
    | cons row more ih =>
      obtain ⟨first,rest⟩ := List.forall_mem_cons.mp blank
      have passed : r.readLine number row = .ok ⟨r,false⟩ := by
        simp [Reader.readLine,Line.read,Text.tokens_trim,first]
      simpa only [List.nil_append,Reader.readLines,passed] using ih rest r (number + 1)
  | cons row rows ih => simp only [List.cons_append,Reader.readLines,ih]

theorem respaced (same : ys.map Text.tokens = xs.map Text.tokens) : ∃ rs, Revision.before rs = xs ∧
    Revision.after rs = ys ∧ (∀ promised, Harmless promised rs) ∧ ∀ line, Revision.addedBefore rs line = 0 := by
  induction xs generalizing ys with
  | nil =>
    rw [List.map_eq_nil_iff.mp same]
    exact ⟨[],rfl,rfl,fun _ => .nil,fun _ => rfl⟩
  | cons x xs ih =>
    obtain ⟨y,rest,rfl,first,later⟩ := List.map_eq_cons_iff.mp same
    obtain ⟨rs,rfl,rfl,harmless,none⟩ := ih later
    refine ⟨.kept x y :: rs,rfl,rfl,fun _ => .kept first (harmless _),?_⟩
    intro line
    rw [Revision.addedBefore,none,ite_self]

-- Blank rows at the end of the text are left out.
def tokenRows (text : String) : List (List (List Char)) :=
  ((Text.rows text.toList).map Text.tokens).rdropWhile List.isEmpty

theorem rows_unfed (text : List Char) :
    (Text.rows (text ++ ['\n'])).map Text.tokens = (Text.rows text).map Text.tokens ∨
    (Text.rows (text ++ ['\n'])).map Text.tokens = (Text.rows text).map Text.tokens ++ [[]] := by
  induction text using Text.feed_induction with
  | last line noFeed =>
    by_cases nonempty : line = []
    · subst nonempty
      exact .inr rfl
    · left
      rw [Text.rows_feed noFeed,Text.rows_open noFeed nonempty,List.map_cons,List.map_cons,Text.tokens_feed]
      rfl
  | row line rest noFeed ih =>
    rw [List.append_assoc,List.cons_append,Text.rows_feed noFeed,Text.rows_feed noFeed,List.map_cons,List.map_cons,
      List.cons_append]
    exact ih.imp (congrArg _) (congrArg _)

theorem tokenRows_unfed (text : List Char) :
    tokenRows (String.ofList (text ++ ['\n'])) = tokenRows (String.ofList text) := by
  rw [tokenRows,tokenRows,String.toList_ofList,String.toList_ofList]
  rcases rows_unfed text with same | blank
  · rw [same]
  · rw [blank,List.rdropWhile_concat_pos _ _ _ rfl]

theorem tokenRows_front (text : String) : ∃ front, front.map Text.tokens = tokenRows text ∧
    parse text = parseLines front := by
  have parts : (Text.rows text.toList).map Text.tokens =
      tokenRows text ++ ((Text.rows text.toList).map Text.tokens).rtakeWhile List.isEmpty :=
    List.rdropWhile_append_rtakeWhile.symm
  obtain ⟨front,last,rows,tokens,blank⟩ := List.map_eq_append_iff.mp parts
  refine ⟨front,tokens,?_⟩
  have blanks : ∀ row ∈ last, Text.tokens row = [] := by
    intro row member
    have dropped := List.mem_rtakeWhile_imp (blank ▸ List.mem_map_of_mem member)
    exact List.isEmpty_iff.mp dropped
  rw [parse_rows,rows,parseLines,readLines_blanks blanks,parseLines]

theorem parse_respaced (same : tokenRows other = tokenRows text) :
    Alike (fun line clause line' clause' => line' = line ∧ Text.tokens clause' = Text.tokens clause)
      (parse text) (parse other) := by
  obtain ⟨front,tokens,read⟩ := tokenRows_front text
  obtain ⟨otherFront,otherTokens,otherRead⟩ := tokenRows_front other
  obtain ⟨rs,rfl,rfl,harmless,none⟩ := respaced (otherTokens.trans (same.trans tokens.symm))
  have alike := parseLines_revised (harmless False)
  rw [← read,← otherRead] at alike
  refine alike.imp ?_
  rintro line clause line' clause' ⟨moved,sameTokens⟩
  exact ⟨by rw [moved,none]; rfl,sameTokens⟩

theorem parse_layout (text : String) :
    (∀ other, tokenRows other = tokenRows text →
      Alike (fun line clause line' clause' => line' = line ∧ Text.tokens clause' = Text.tokens clause)
        (parse text) (parse other)) ∧
    (∀ other rs, Harmless False rs → textContent text = Revision.before rs → textContent other = Revision.after rs →
      Alike (fun line clause line' clause' => line' = line + Revision.addedBefore rs line ∧
        Text.tokens clause' = Text.tokens clause) (parse text) (parse other)) ∧
    ∀ other, textContent other = textContent text → parse other = parse text := by
  refine ⟨fun other same => parse_respaced same,?_,?_⟩
  · intro other rs harmless old new
    rw [parse_content text,parse_content other,old,new]
    exact parseLines_revised harmless
  · intro other same
    rw [parse_content,same,← parse_content]

-- The second problem line is put into a folded clause. Three rows come before the clause.
theorem parse_layout_folded :
    parse "p cnf 2 2\n1 0\n2\nx 0" =
      .error (.malformedLiteral 3 "2 x 0".toList ['x'] (.notANumeral .invalidDigit)) ∧
    ∃ clause, Text.tokens clause = [['2'],['x'],['0']] ∧
      parse "c head\np cnf two 2\np cnf 2 2\n1   0\n\n2\np cnf 9 9\n x 0" =
        .error (.malformedLiteral 6 clause ['x'] (.notANumeral .invalidDigit)) := by
  have comment : Text.tokens "c head\n".toList = ['c'] :: ["head".toList] := by decide +kernel
  have malformed : Text.tokens "p cnf two 2\n".toList = ['p'] :: ["cnf".toList,"two".toList,['2']] := by
    decide +kernel
  have unreadable : ∀ d, ¬ Promises "p cnf two 2\n".toList d := (promised?_none 0 _).mp (by decide +kernel)
  have declared : Promises "p cnf 2 2\n".toList ⟨2,2⟩ := (promised?_exact 0 _).mp (by decide +kernel)
  have repeated : Text.tokens "p cnf 9 9\n".toList = ['p'] :: ["cnf".toList,['9'],['9']] := by decide +kernel
  have harmless : Harmless False [.added "c head\n".toList,.added "p cnf two 2\n".toList,
      .kept "p cnf 2 2\n".toList "p cnf 2 2\n".toList,.kept "1 0\n".toList "1   0\n".toList,.added ['\n'],
      .kept ['2','\n'] ['2','\n'],.added "p cnf 9 9\n".toList,.kept "x 0".toList " x 0".toList] := by
    refine .added (.comment comment) (.added (.malformed malformed unreadable) (.kept rfl ?_))
    refine .kept (by decide +kernel) (.added (.blank rfl) (.kept rfl ?_))
    exact .added (.repeated repeated (.inl (.inl (.inr ⟨_,declared⟩)))) (.kept (by decide +kernel) .nil)
  have failed : parse "p cnf 2 2\n1 0\n2\nx 0" =
      .error (.malformedLiteral 3 "2 x 0".toList ['x'] (.notANumeral .invalidDigit)) := by decide +kernel
  have alike := (parse_layout "p cnf 2 2\n1 0\n2\nx 0").2.1
    "c head\np cnf two 2\np cnf 2 2\n1   0\n\n2\np cnf 9 9\n x 0" _ harmless (by decide +kernel) (by decide +kernel)
  rw [failed] at alike
  obtain ⟨_,_,_,clause,_,_,same,⟨rfl,tokens⟩,moved⟩ := alike.error_moved
  cases same
  exact ⟨failed,clause,tokens.trans (by decide +kernel),moved⟩

end CnfSearch.Dimacs
