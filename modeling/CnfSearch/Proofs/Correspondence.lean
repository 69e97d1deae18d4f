import CnfSearch.Proofs.Rows
import CnfSearch.Proofs.ClauseGrammar

-- Texts whose data lines correspond one by one are read alike.
namespace CnfSearch.Dimacs
open Traversal

-- Results that agree. Two errors blame the same token for the same reason; how the places
-- and the clauses that they name go together is said by the relation.
inductive Alike {α : Type} (place : Nat → List Char → Nat → List Char → Prop) :
    Except ReadError α → Except ReadError α → Prop where
  | ok (a : α) : Alike place (.ok a) (.ok a)
  | error (token : List Char) (cause : VariableError) (placed : place line clause line' clause') :
      Alike place (.error (.malformedLiteral line clause token cause))
        (.error (.malformedLiteral line' clause' token cause))

namespace Alike
variable {α β : Type} {place : Nat → List Char → Nat → List Char → Prop}

theorem map {x y : Except ReadError α} (alike : Alike place x y) (f : α → β) :
    Alike place (x.map f) (y.map f) := by
  cases alike with
  | ok a => exact .ok (f a)
  | error token cause placed => exact .error token cause placed

theorem imp {wider : Nat → List Char → Nat → List Char → Prop} {x y : Except ReadError α} (alike : Alike place x y)
    (weaker : ∀ line clause line' clause', place line clause line' clause' → wider line clause line' clause') :
    Alike wider x y := by
  cases alike with
  | ok a => exact .ok a
  | error token cause placed => exact .error token cause (weaker _ _ _ _ placed)

theorem ok_exact {x y : Except ReadError α} (alike : Alike place x y) : x = .ok a ↔ y = .ok a := by
  cases alike with
  | ok => rfl
  | error => simp

theorem error_moved {y : Except ReadError α} (alike : Alike place (.error e) y) :
    ∃ line clause line' clause' token cause, e = .malformedLiteral line clause token cause ∧
      place line clause line' clause' ∧ y = .error (.malformedLiteral line' clause' token cause) := by
  cases alike with
  | error token cause placed => exact ⟨_,_,_,_,token,cause,rfl,placed,rfl⟩

theorem mapM {R : α → α → Prop} {f : α → Except ReadError β} {xs ys : List α}
    (each : ∀ x y, R x y → Alike place (f x) (f y)) (related : List.Forall₂ R xs ys) :
    Alike place (xs.mapM f) (ys.mapM f) := by
  induction related with
  | nil => exact .ok []
  | cons first _ ih =>
    rename_i x y xs ys _
    have alike := each _ _ first
    generalize left : f x = a at alike
    generalize right : f y = b at alike
    cases alike with
    | ok c =>
      rw [mapM_cons_ok left,mapM_cons_ok right]
      exact ih.map _
    | error token cause placed =>
      rw [mapM_cons_error left,mapM_cons_error right]
      exact .error token cause placed

end Alike

section Lists
variable {α : Type} {R : α → α → Prop} {p : α → Bool} {xs ys : List α}

theorem related_filter (agree : ∀ x y, R x y → p x = p y) (related : List.Forall₂ R xs ys) :
    List.Forall₂ R (xs.filter p) (ys.filter p) := by
  apply List.rel_filter _ related
  intro x y same
  change p x = true ↔ p y = true
  rw [agree x y same]

theorem related_dropWhile (agree : ∀ x y, R x y → p x = p y) (related : List.Forall₂ R xs ys) :
    List.Forall₂ R (xs.dropWhile p) (ys.dropWhile p) := by
  induction related with
  | nil => exact .nil
  | cons first rest ih =>
    rw [List.dropWhile_cons,List.dropWhile_cons,agree _ _ first]
    split
    · exact ih
    · exact .cons first rest

end Lists

section Tokens
variable {l m : NumberedLine} (same : l.tokens = m.tokens)
include same

theorem endsData_tokens : l.endsData = m.endsData := by rw [NumberedLine.endsData,same,NumberedLine.endsData]

theorem isPassedOver_tokens : l.isPassedOver = m.isPassedOver := by
  rw [NumberedLine.isPassedOver,same,NumberedLine.isPassedOver]

theorem promised?_tokens : l.promised? = m.promised? := by rw [NumberedLine.promised?,same,NumberedLine.promised?]

end Tokens

def Group.Matches (R : NumberedLine → NumberedLine → Prop) (g h : Group) : Prop := List.Forall₂ R g.lines h.lines

section Groups
variable {R : NumberedLine → NumberedLine → Prop} {place : Nat → List Char → Nat → List Char → Prop}

theorem joinFirst_matches (first : R l m) (related : List.Forall₂ (Group.Matches R) gs hs) :
    List.Forall₂ (Group.Matches R) (joinFirst l gs) (joinFirst m hs) := by
  cases related with
  | nil => exact .cons (.cons first .nil) .nil
  | cons matched rest => exact .cons (.cons first matched) rest

theorem last_related (first : R l m) (rest : List.Forall₂ R xs ys) :
    R (Group.last ⟨l,xs⟩) (Group.last ⟨m,ys⟩) := by
  induction rest generalizing l m with
  | nil => exact first
  | cons next _ ih =>
    unfold Group.last
    rw [List.getLastD_cons,List.getLastD_cons]
    exact ih next

variable (sameTokens : ∀ l m, R l m → l.tokens = m.tokens)
include sameTokens

theorem lines_tokens (related : List.Forall₂ R xs ys) :
    xs.flatMap NumberedLine.tokens = ys.flatMap NumberedLine.tokens := by
  induction related with
  | nil => rfl
  | cons first _ ih => rw [List.flatMap_cons,List.flatMap_cons,sameTokens _ _ first,ih]

theorem dataLines_related (first : R l m) (rest : List.Forall₂ R (dataLines xs) (dataLines ys)) :
    List.Forall₂ R (dataLines (l :: xs)) (dataLines (m :: ys)) := by
  have tokens := sameTokens l m first
  cases ends : l.endsData with
  | true =>
    rw [dataLines,dataLines,content_end ends,content_end ((endsData_tokens tokens).symm.trans ends)]
    exact .nil
  | false =>
    have more := (endsData_tokens tokens).symm.trans ends
    cases passed : l.isPassedOver with
    | true =>
      rw [dataLines_passed ends passed,dataLines_passed more ((isPassedOver_tokens tokens).symm.trans passed)]
      exact rest
    | false =>
      rw [dataLines_kept ends passed,dataLines_kept more ((isPassedOver_tokens tokens).symm.trans passed)]
      exact .cons first rest

-- Where the groups end depends on the tokens only.
theorem groups_matches (related : List.Forall₂ R xs ys) :
    List.Forall₂ (Group.Matches R) (groups xs) (groups ys) := by
  induction related with
  | nil => exact .nil
  | cons first _ ih =>
    unfold groups NumberedLine.closes
    rw [sameTokens _ _ first]
    split
    · exact .cons (.cons first .nil) ih
    · exact joinFirst_matches first ih

namespace Group

theorem Matches.tokens (matched : Matches R g h) : g.tokens = h.tokens := lines_tokens sameTokens matched

theorem Matches.isBareZero (matched : Matches R g h) : g.isBareZero = h.isBareZero := by
  obtain ⟨l,later⟩ := g
  obtain ⟨m,more⟩ := h
  cases matched with
  | cons first rest =>
    unfold Group.isBareZero
    rw [sameTokens _ _ first]
    cases rest <;> rfl

theorem Matches.isTerminated (matched : Matches R g h) : g.isTerminated = h.isTerminated := by
  obtain ⟨l,later⟩ := g
  obtain ⟨m,more⟩ := h
  cases matched with
  | cons first rest =>
    unfold Group.isTerminated NumberedLine.closes
    rw [sameTokens _ _ (last_related first rest)]

theorem Matches.toClause (matched : Matches R g h) (placed : place g.line g.text h.line h.text) :
    Alike place g.toClause h.toClause := by
  have body : g.body = h.body := by
    unfold Group.body
    rw [matched.tokens sameTokens,matched.isTerminated sameTokens]
  cases read : g.toClause with
  | ok c =>
    rw [toClause_read,body,← toClause_read] at read
    rw [read]
    exact .ok c
  | error e =>
    obtain ⟨earlier,token,later,cause,parts,good,bad,rfl⟩ := toClause_error_exact.mp read
    rw [toClause_error_exact.mpr ⟨earlier,token,later,cause,body ▸ parts,good,bad,rfl⟩]
    exact .error token cause placed

end Group

theorem clauseGroups_matches (related : List.Forall₂ R (dataLines xs) (dataLines ys)) :
    List.Forall₂ (Group.Matches R) (clauseGroups xs) (clauseGroups ys) := by
  have block : List.Forall₂ R (clauseBlock xs) (clauseBlock ys) := by
    apply related_dropWhile _ related
    intro l m same
    rw [NumberedLine.opens,sameTokens l m same,NumberedLine.opens]
  apply related_filter _ (groups_matches sameTokens block)
  intro g h matched
  rw [matched.isBareZero sameTokens]

theorem clauses_alike (placed : ∀ g h, Group.Matches R g h → place g.line g.text h.line h.text)
    (related : List.Forall₂ R (dataLines xs) (dataLines ys)) :
    Alike place ((clauseGroups xs).mapM Group.toClause) ((clauseGroups ys).mapM Group.toClause) :=
  .mapM (fun g h matched => matched.toClause sameTokens (placed g h matched)) (clauseGroups_matches sameTokens related)

theorem parseLines_alike (placed : ∀ g h, Group.Matches R g h → place g.line g.text h.line h.text)
    (related : List.Forall₂ R (dataLines (numberFrom 1 xs)) (dataLines (numberFrom 1 ys)))
    (promised : declaration? (numberFrom 1 ys) = declaration? (numberFrom 1 xs)) :
    Alike place (parseLines xs) (parseLines ys) := by
  rw [parseLines_groups,parseLines_groups,promised]
  exact (clauses_alike sameTokens placed related).map _

end Groups
end CnfSearch.Dimacs
