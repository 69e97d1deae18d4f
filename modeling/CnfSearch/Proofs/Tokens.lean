import CnfSearch.Text.Token
import Mathlib

namespace CnfSearch.Text

theorem tokens_of_starts (starts : startsInToken text = true) :
    ∃ first rest, tokens text = first :: rest := by
  cases text with
  | nil => cases starts
  | cons c text =>
    have solid : isBlank c = false := by simpa [startsInToken] using starts
    rw [tokens,if_neg (by simp [solid])]
    split
    · cases tokens text <;> exact ⟨_,_,rfl⟩
    · exact ⟨_,_,rfl⟩

theorem startsInToken_append (blank : isBlank c = true) (text rest : List Char) :
    startsInToken (text ++ c :: rest) = startsInToken text := by
  cases text <;> simp [startsInToken,blank]

theorem extendFirst_append (c : Char) (first : List Char) (rest more : List (List Char)) :
    extendFirst c (first :: rest ++ more) = extendFirst c (first :: rest) ++ more := rfl

theorem tokens_append_blank (blank : isBlank c = true) (text rest : List Char) :
    tokens (text ++ c :: rest) = tokens text ++ tokens rest := by
  induction text with
  | nil => simp [tokens,blank]
  | cons d text ih =>
    rw [List.cons_append,tokens,tokens]
    split
    · exact ih
    · rw [startsInToken_append blank]
      split
      · rename_i starts
        obtain ⟨first,more,found⟩ := tokens_of_starts starts
        rw [ih,found,extendFirst_append]
      · rw [ih,List.cons_append]

theorem tokens_blanks (blanks : ∀ c ∈ text, isBlank c = true) : tokens text = [] := by
  induction text with
  | nil => rfl
  | cons c text ih =>
    rw [tokens,if_pos (blanks c List.mem_cons_self)]
    exact ih fun d member => blanks d (List.mem_cons_of_mem _ member)

theorem tokens_append_blanks (blanks : ∀ c ∈ rest, isBlank c = true) (text : List Char) :
    tokens (text ++ rest) = tokens text := by
  cases rest with
  | nil => rw [List.append_nil]
  | cons c rest =>
    have later := tokens_blanks fun d member => blanks d (List.mem_cons_of_mem _ member)
    rw [tokens_append_blank (blanks c List.mem_cons_self),later,List.append_nil]

theorem tokens_feed (text : List Char) : tokens (text ++ ['\n']) = tokens text :=
  (tokens_append_blank rfl text []).trans (List.append_nil _)

theorem tokens_blanks_append (blanks : ∀ c ∈ before, isBlank c = true) (text : List Char) :
    tokens (before ++ text) = tokens text := by
  induction before with
  | nil => rfl
  | cons c before ih =>
    rw [List.cons_append,tokens,if_pos (blanks c List.mem_cons_self)]
    exact ih fun d member => blanks d (List.mem_cons_of_mem _ member)

theorem tokens_solid (nonempty : text ≠ []) (solid : ∀ c ∈ text, isBlank c = false) : tokens text = [text] := by
  induction text with
  | nil => exact absurd rfl nonempty
  | cons c text ih =>
    obtain ⟨first,rest⟩ := List.forall_mem_cons.mp solid
    rw [tokens,if_neg (by simp [first])]
    cases text with
    | nil => rfl
    | cons d text =>
      have starts : startsInToken (d :: text) = true := by simp [startsInToken,rest d List.mem_cons_self]
      rw [if_pos starts,ih (List.cons_ne_nil _ _) rest]
      rfl

theorem trim_parts (text : List Char) : ∃ before after, text = before ++ trim text ++ after ∧
    (∀ c ∈ before, isBlank c = true) ∧ ∀ c ∈ after, isBlank c = true := by
  have front := List.takeWhile_append_dropWhile (p := isBlank) (l := text)
  have back := List.takeWhile_append_dropWhile (p := isBlank) (l := (text.dropWhile isBlank).reverse)
  refine ⟨text.takeWhile isBlank,((text.dropWhile isBlank).reverse.takeWhile isBlank).reverse,?_,?_,?_⟩
  · have back := congrArg List.reverse back
    rw [List.reverse_append,List.reverse_reverse] at back
    rw [List.append_assoc,trim,back,front]
  · intro c member
    exact List.mem_takeWhile_imp member
  · intro c member
    exact List.mem_takeWhile_imp (List.mem_reverse.mp member)

theorem tokens_trim (text : List Char) : tokens (trim text) = tokens text := by
  obtain ⟨before,after,parts,front,back⟩ := trim_parts text
  have whole : tokens text = tokens (before ++ trim text ++ after) := congrArg tokens parts
  rw [whole,tokens_append_blanks back,tokens_blanks_append front]

theorem dropWhile_solid (solid : ∀ c ∈ text, isBlank c = false) (nonempty : text ≠ []) (rest : List Char) :
    (text ++ rest).dropWhile isBlank = text ++ rest := by
  cases text with
  | nil => exact absurd rfl nonempty
  | cons c text => simp [solid c List.mem_cons_self]

-- Trimming takes off all the blanks that stand around solid text, and no more.
theorem trim_solid (front : ∀ c ∈ before, isBlank c = true) (back : ∀ c ∈ after, isBlank c = true)
    (solid : ∀ c ∈ text, isBlank c = false) : trim (before ++ text ++ after) = text := by
  unfold trim
  rw [List.append_assoc,List.dropWhile_append_of_pos front]
  by_cases nonempty : text = []
  · subst nonempty
    rw [List.nil_append,List.dropWhile_eq_nil_iff.mpr back]
    rfl
  · have backward : ∀ c ∈ after.reverse, isBlank c = true := fun c member => back c (List.mem_reverse.mp member)
    have inside := dropWhile_solid (fun c member => solid c (List.mem_reverse.mp member))
      (mt List.reverse_eq_nil_iff.mp nonempty) []
    rw [dropWhile_solid solid nonempty,List.reverse_append,List.dropWhile_append_of_pos backward,
      ← List.append_nil text.reverse,inside,List.append_nil,List.reverse_reverse]

theorem trim_subset : ∀ c ∈ trim text, c ∈ text := by
  obtain ⟨before,after,parts,_⟩ := trim_parts text
  intro c member
  rw [parts]
  exact List.mem_append_left _ (List.mem_append_right _ member)

theorem dropWhile_head {text : List Char} (first : (text.dropWhile isBlank).head? = some c) : isBlank c = false := by
  have solid := List.head?_dropWhile_not isBlank text
  rw [first] at solid
  simpa using solid

theorem trim_front (first : (trim text).head? = some c) : isBlank c = false := by
  obtain ⟨rest,parts⟩ : trim text <+: text.dropWhile isBlank := List.rdropWhile_prefix isBlank _
  apply dropWhile_head
  rw [← parts,List.head?_append,first,Option.some_or]

theorem trim_back (last : (trim text).getLast? = some c) : isBlank c = false := by
  rw [trim,List.getLast?_reverse] at last
  exact dropWhile_head last

theorem tokens_nil (none : tokens text = []) : ∀ c ∈ text, isBlank c = true := by
  induction text with
  | nil => simp
  | cons c text ih =>
    rw [tokens] at none
    split at none
    · rename_i blank
      intro d member
      rcases List.mem_cons.mp member with rfl | later
      · exact blank
      · exact ih none d later
    · split at none
      · cases found : tokens text <;> rw [found] at none <;> cases none
      · cases none

theorem tokens_single (single : tokens text = [token]) : ∃ before after,
    text = before ++ token ++ after ∧ (∀ c ∈ before, isBlank c = true) ∧
      (∀ c ∈ after, isBlank c = true) ∧ ∀ c ∈ token, isBlank c = false := by
  induction text generalizing token with
  | nil => cases single
  | cons c text ih =>
    rw [tokens] at single
    split at single
    · rename_i blank
      obtain ⟨before,after,rfl,front,back,solid⟩ := ih single
      refine ⟨c :: before,after,rfl,?_,back,solid⟩
      intro d member
      rcases List.mem_cons.mp member with rfl | later
      · exact blank
      · exact front d later
    · rename_i solidHead
      have solidHead : isBlank c = false := by simpa using solidHead
      split at single
      · rename_i starts
        obtain ⟨first,more,found⟩ := tokens_of_starts starts
        rw [found] at single
        cases single
        obtain ⟨before,after,rfl,front,back,solid⟩ := ih found
        cases before with
        | cons d before => simp [startsInToken,front d List.mem_cons_self] at starts
        | nil => exact ⟨[],after,rfl,by simp,back,by simpa [solidHead] using solid⟩
      · obtain ⟨rfl,none⟩ := List.cons.inj single
        exact ⟨[],text,rfl,by simp,tokens_nil none,by simpa using solidHead⟩

theorem trim_single (single : tokens text = [token]) : trim text = token := by
  obtain ⟨before,after,rfl,front,back,solid⟩ := tokens_single single
  exact trim_solid front back solid

section Lines

def withoutReturn (line : List Char) : List Char :=
  if line.getLast? = some '\r' then line.dropLast else line

def terminate (lines : List (List Char)) : List Char := lines.flatMap (· ++ ['\n'])

theorem withoutReturn_cons (c : Char) (nonempty : line ≠ []) :
    withoutReturn (c :: line) = c :: withoutReturn line := by
  obtain ⟨d,rest,rfl⟩ := List.exists_cons_of_ne_nil nonempty
  unfold withoutReturn
  rw [List.getLast?_cons_cons,List.dropLast_cons_cons]
  split <;> rfl

theorem lines_feed (noFeed : '\n' ∉ line) (rest : List Char) :
    lines (line ++ '\n' :: rest) = withoutReturn line :: lines rest := by
  induction line with
  | nil => simp [lines,withoutReturn]
  | cons c line ih =>
    obtain ⟨other,noFeed⟩ := not_or.mp (mt List.mem_cons.mpr noFeed)
    cases line with
    | nil =>
      by_cases ret : c = '\r'
      · subst ret
        simp [lines,withoutReturn]
      · simp [lines,withoutReturn,ret,Ne.symm other,extendFirst]
    | cons d line =>
      obtain ⟨otherNext,_⟩ := not_or.mp (mt List.mem_cons.mpr noFeed)
      have tail := ih noFeed
      rw [withoutReturn_cons c (List.cons_ne_nil _ _),List.cons_append,lines,tail]
      · rfl
      · exact Ne.symm other
      · intro after _ same
        exact otherNext (List.cons.inj same).1.symm

theorem lines_terminate (noFeed : ∀ line ∈ given, '\n' ∉ line) :
    lines (terminate given) = given.map withoutReturn := by
  induction given with
  | nil => rfl
  | cons line given ih =>
    obtain ⟨first,rest⟩ := List.forall_mem_cons.mp noFeed
    have joined : terminate (line :: given) = line ++ '\n' :: terminate given := by simp [terminate]
    rw [joined,lines_feed first,ih rest,List.map_cons]

end Lines
end CnfSearch.Text
