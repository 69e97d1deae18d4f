import CnfSearch.Proofs.Correspondence
import CnfSearch.Proofs.Numerals

-- The block is found by reading signed words and its literals are read in another way, so a
-- line can be overlooked where it comes first.
namespace CnfSearch.Dimacs
open Text.Numeral

-- The token names a literal, or would do so if its number were smaller.
def NamesNumber (token : List Char) : Prop :=
  (∃ l, Literal.read token = .ok l) ∨ Literal.read token = .error (.notANumeral .tooLarge) ∨
    ∃ n, n ≠ 0 ∧ Literal.read token = .error (.outOfRange n)

-- The token has two signs, or it has a number that no signed word holds.
def Overlooked (token : List Char) : Prop :=
  ['-','+'] <+: token ∨ ∀ n, magnitude token = .ok n → signedLimit token ≤ n

section Token
variable {token : List Char}

theorem NamesNumber.magnitude (names : NamesNumber token) :
    Text.Numeral.magnitude token = .error .tooLarge ∨ ∃ n, n ≠ 0 ∧ Text.Numeral.magnitude token = .ok n := by
  rcases names with ⟨l,read⟩ | tooLarge | ⟨n,nonzero,outOfRange⟩
  · exact .inr ⟨l.var.id,Nat.ne_of_gt l.var.positive,(Literal.read_ok_exact.mp read).1⟩
  · exact .inl (Literal.read_numeral_exact.mp tooLarge)
  · exact .inr ⟨n,nonzero,(Literal.read_outOfRange_exact.mp outOfRange).1⟩

theorem NamesNumber.ordinary (names : NamesNumber token) :
    token ≠ ['%'] ∧ token ≠ ['p'] ∧ token ≠ ['0'] ∧ token.head? ≠ some 'c' := by
  have value := names.magnitude
  refine ⟨?_,?_,?_,?_⟩
  · rintro rfl
    simp [Text.Numeral.magnitude,natural,digits,digit?] at value
  · rintro rfl
    simp [Text.Numeral.magnitude,natural,digits,digit?] at value
  · rintro rfl
    have zero : Text.Numeral.magnitude ['0'] = .ok 0 := by decide
    simp [zero] at value
  · intro comment
    obtain ⟨rest,rfl⟩ := List.head?_eq_some_iff.mp comment
    simp [Text.Numeral.magnitude,natural,digits,digit?] at value

theorem opens_exact {l : NumberedLine} (first : l.tokens.head? = some token) (names : NamesNumber token) :
    l.opens = true ↔ ¬ Overlooked token := by
  have word : l.opens = (integer? token).any (· != 0) := by simp [NumberedLine.opens,first]
  rw [word,Option.any_eq_true]
  constructor
  · rintro ⟨v,read,_⟩ (twoSigns | large)
    · exact (integer?_exact.mp ⟨v,read,rfl⟩).1 twoSigns
    · obtain ⟨_,value,below⟩ := integer?_exact.mp ⟨v,read,rfl⟩
      exact Nat.not_le.mpr below (large _ value)
  · intro seen
    obtain ⟨oneSign,small⟩ := not_or.mp seen
    obtain ⟨n,within⟩ := not_forall.mp small
    obtain ⟨value,below⟩ := Classical.not_imp.mp within
    obtain ⟨v,read,abs⟩ := integer?_exact.mpr ⟨oneSign,value,Nat.not_le.mp below⟩
    refine ⟨v,read,?_⟩
    rcases names.magnitude with tooLarge | ⟨m,nonzero,same⟩
    · rw [tooLarge] at value
      cases value
    · rw [same] at value
      cases value
      simpa [← Int.natAbs_eq_zero,abs] using nonzero

end Token

def unitRow : List Char := "1 0\n".toList
def unitClause : Clause := [⟨⟨1,by decide,by decide⟩,true⟩]

section Line
variable {d token : List Char} (noFeed : '\n' ∉ d) (first : (Text.tokens d).head? = some token)
  (names : NamesNumber token)

section Kept
include first names

theorem numbered_more (number : Nat) : NumberedLine.endsData ⟨number,d⟩ = false := by
  simp [isEndMarker,first,names.ordinary.1]

theorem numbered_kept (number : Nat) : NumberedLine.isPassedOver ⟨number,d⟩ = false := by
  obtain ⟨_,problem,_,comment⟩ := names.ordinary
  simp [NumberedLine.isPassedOver,NumberedLine.tokens,first,problem,comment]

theorem numbered_counted (number : Nat) : Group.isBareZero ⟨⟨number,d⟩,[]⟩ = false := by
  have other : Text.tokens d ≠ [['0']] := by
    intro zero
    rw [zero] at first
    exact names.ordinary.2.2.1 (Option.some.inj first).symm
  simpa [Group.isBareZero,NumberedLine.tokens] using other

theorem groups_last (number : Nat) : (groups [⟨number,d⟩]).filter (!·.isBareZero) = [⟨⟨number,d⟩,[]⟩] := by
  have single : groups [⟨number,d⟩] = [⟨⟨number,d⟩,[]⟩] := by
    unfold groups
    split <;> rfl
  rw [single,List.filter_cons_of_pos (by simp [numbered_counted first names]),List.filter_nil]

theorem parseLines_first : parseLines [d] =
    if NumberedLine.opens ⟨1,d⟩ then (Group.toClause ⟨⟨1,d⟩,[]⟩).map fun c => .accepted ⟨[c]⟩
    else .ok (.accepted .empty) := by
  have more := numbered_more first names 1
  have kept := numbered_kept first names 1
  have data : dataLines (numberFrom 1 [d]) = [⟨1,d⟩] := dataLines_kept more kept
  have promised : declaration? (numberFrom 1 [d]) = none := by
    rw [numberFrom,declaration?_more more,promised?_kept kept]
    rfl
  rw [parseLines_groups,promised,clauseGroups,clauseBlock,data]
  cases opening : NumberedLine.opens ⟨1,d⟩ with
  | true =>
    rw [List.dropWhile_cons_of_neg (by simp [opening]),groups_last first names,if_pos rfl]
    cases read : Group.toClause ⟨⟨1,d⟩,[]⟩ with
    | error e => rw [Traversal.mapM_cons_error read]; rfl
    | ok c => rw [Traversal.mapM_cons_ok read]; rfl
  | false =>
    rw [List.dropWhile_cons_of_pos (by simp [opening])]
    rfl

theorem parseLines_second : parseLines [unitRow,d] =
    (Group.toClause ⟨⟨2,d⟩,[]⟩).map fun c => .accepted ⟨[unitClause,c]⟩ := by
  have unitMore : NumberedLine.endsData ⟨1,unitRow⟩ = false := by decide
  have unitKept : NumberedLine.isPassedOver ⟨1,unitRow⟩ = false := by decide
  have unitOpens : NumberedLine.opens ⟨1,unitRow⟩ = true := by decide
  have unitCloses : NumberedLine.closes ⟨1,unitRow⟩ = true := by decide
  have unitCounted : Group.isBareZero ⟨⟨1,unitRow⟩,[]⟩ = false := by decide
  have unitRead : Group.toClause ⟨⟨1,unitRow⟩,[]⟩ = .ok unitClause := by decide +kernel
  have more := numbered_more first names 2
  have kept := numbered_kept first names 2
  have data : dataLines (numberFrom 1 [unitRow,d]) = [⟨1,unitRow⟩,⟨2,d⟩] := by
    rw [numberFrom,numberFrom,dataLines_kept unitMore unitKept,dataLines_kept more kept]
    rfl
  have promised : declaration? (numberFrom 1 [unitRow,d]) = none := by
    rw [numberFrom,numberFrom,declaration?_more unitMore,declaration?_more more,promised?_kept unitKept,promised?_kept kept]
    rfl
  have cut : groups [⟨1,unitRow⟩,⟨2,d⟩] = ⟨⟨1,unitRow⟩,[]⟩ :: groups [⟨2,d⟩] := if_pos unitCloses
  rw [parseLines_groups,promised,clauseGroups,clauseBlock,data,List.dropWhile_cons_of_neg (by simp [unitOpens]),cut,
    List.filter_cons_of_pos (by simp [unitCounted]),groups_last first names,Traversal.mapM_cons_ok unitRead]
  cases read : Group.toClause ⟨⟨2,d⟩,[]⟩ with
  | error e => rw [Traversal.mapM_cons_error read]; rfl
  | ok c => rw [Traversal.mapM_cons_ok read]; rfl

end Kept

include noFeed first in
theorem rows_single : Text.rows d = [d] := by
  apply Text.rows_open noFeed
  rintro rfl
  cases first

-- A line whose number is overlooked is passed over without an error.
theorem parse_opening {d token : List Char} (noFeed : '\n' ∉ d) (first : (Text.tokens d).head? = some token)
    (names : NamesNumber token) :
    (Alike (fun _ _ _ _ => True)
      ((parse (String.ofList d)).map fun p => unitClause :: p.formula.clauses)
      ((parse (String.ofList (unitRow ++ d))).map fun p => p.formula.clauses) ↔ ¬ Overlooked token) ∧
    (Overlooked token → parse (String.ofList d) = .ok (.accepted .empty)) := by
  have alone : parse (String.ofList d) = parseLines [d] := by
    rw [parse_rows,String.toList_ofList,rows_single noFeed first]
  have after : parse (String.ofList (unitRow ++ d)) = parseLines [unitRow,d] := by
    rw [parse_rows,String.toList_ofList]
    change parseLines (Text.rows ("1 0".toList ++ '\n' :: d)) = _
    rw [Text.rows_feed (by decide),rows_single noFeed first]
    rfl
  have opening : NumberedLine.opens ⟨1,d⟩ = true ↔ ¬ Overlooked token := opens_exact first names
  have matched : Group.Matches (fun l m => l.tokens = m.tokens) ⟨⟨1,d⟩,[]⟩ ⟨⟨2,d⟩,[]⟩ := .cons rfl .nil
  have alike : Alike (fun _ _ _ _ => True) (Group.toClause ⟨⟨1,d⟩,[]⟩) (Group.toClause ⟨⟨2,d⟩,[]⟩) :=
    matched.toClause (fun _ _ same => same) trivial
  rw [alone,after,parseLines_first first names,parseLines_second first names]
  by_cases overlooked : Overlooked token
  · have passed : NumberedLine.opens ⟨1,d⟩ = false := by simpa [overlooked] using opening
    rw [passed]
    refine ⟨⟨?_,fun seen => absurd overlooked seen⟩,fun _ => rfl⟩
    intro agree
    generalize Group.toClause ⟨⟨2,d⟩,[]⟩ = second at agree
    cases second <;> cases agree
  · rw [opening.mpr overlooked,if_pos rfl]
    refine ⟨⟨fun _ => overlooked,fun _ => ?_⟩,fun seen => absurd seen overlooked⟩
    generalize Group.toClause ⟨⟨1,d⟩,[]⟩ = one at alike
    generalize Group.toClause ⟨⟨2,d⟩,[]⟩ = two at alike
    cases alike with
    | ok c => exact .ok [unitClause,c]
    | error token cause placed => exact .error token cause placed

-- The number is one more than a signed word holds.
theorem parse_opening_large :
    let d := "9223372036854775808 0".toList
    '\n' ∉ d ∧ (Text.tokens d).head? = some "9223372036854775808".toList ∧
    NamesNumber "9223372036854775808".toList ∧
    parse (String.ofList d) = .ok (.accepted .empty) ∧
    parse (String.ofList (unitRow ++ d)) =
      .error (.malformedLiteral 2 d "9223372036854775808".toList (.outOfRange 9223372036854775808)) := by
  intro d
  have noFeed : '\n' ∉ d := by decide
  have first : (Text.tokens d).head? = some "9223372036854775808".toList := by decide +kernel
  have names : NamesNumber "9223372036854775808".toList :=
    .inr (.inr ⟨9223372036854775808,by decide,by decide +kernel⟩)
  have value : magnitude "9223372036854775808".toList = .ok 9223372036854775808 := by decide +kernel
  have limit : signedLimit "9223372036854775808".toList = 9223372036854775808 := by decide +kernel
  have overlooked : Overlooked "9223372036854775808".toList := by
    right
    intro n same
    rw [value] at same
    cases same
    exact Nat.le_of_eq limit
  exact ⟨noFeed,first,names,(parse_opening noFeed first names).2 overlooked,by decide +kernel⟩

end Line

end CnfSearch.Dimacs
