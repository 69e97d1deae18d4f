import CnfSearch.Dimacs.Line
import CnfSearch.Dimacs.Token
import Mathlib

namespace CnfSearch.Text.Numeral

theorem le_ofDigitChars (ds : List Char) (value : Nat) : value ≤ Nat.ofDigitChars 10 ds value := by
  induction ds generalizing value with
  | nil => rw [Nat.ofDigitChars_nil]
  | cons c ds ih =>
    rw [Nat.ofDigitChars_cons]
    exact Nat.le_trans (by omega) (ih _)

theorem digits_ok_exact (fits : value < limit) : digits limit value ds = .ok n ↔
    (∀ c ∈ ds, c.isDigit = true) ∧ Nat.ofDigitChars 10 ds value = n ∧ n < limit := by
  induction ds generalizing value with
  | nil =>
    rw [digits,Nat.ofDigitChars_nil]
    constructor
    · rintro ⟨rfl⟩
      exact ⟨by simp,rfl,fits⟩
    · rintro ⟨_,rfl,_⟩
      rfl
  | cons c ds ih =>
    rw [digits,digit?,Nat.ofDigitChars_cons,List.forall_mem_cons]
    cases digit : c.isDigit with
    | false => simp
    | true =>
      simp only [if_true,true_and]
      split
      · rename_i below
        exact ih below
      · rename_i above
        have grows := le_ofDigitChars ds (10 * value + (c.toNat - '0'.toNat))
        constructor
        · rintro ⟨⟩
        · rintro ⟨_,rfl,below⟩
          omega

theorem digits_narrow (positive : 0 < narrow) (within : narrow ≤ limit) :
    digits narrow 0 ds = .ok n ↔ digits limit 0 ds = .ok n ∧ n < narrow := by
  rw [digits_ok_exact positive,digits_ok_exact (Nat.lt_of_lt_of_le positive within)]
  constructor
  · rintro ⟨all,value,below⟩
    exact ⟨⟨all,value,Nat.lt_of_lt_of_le below within⟩,below⟩
  · rintro ⟨⟨all,value,_⟩,below⟩
    exact ⟨all,value,below⟩

theorem natural_unsigned (nonempty : text ≠ []) (noPlus : text.head? ≠ some '+') :
    natural text = digits Word.bound 0 text := by
  unfold natural
  split <;> simp_all

-- The number that a token writes after its minus sign, if it has one.
def magnitude : List Char → Except NumeralError Nat
  | '-' :: rest => natural rest
  | text => natural text

theorem magnitude_unsigned (noMinus : text.head? ≠ some '-') : magnitude text = natural text := by
  unfold magnitude
  split <;> simp_all

-- The least number too large for a signed word, with the sign that the token has.
def signedLimit (text : List Char) : Nat :=
  if text.head? = some '-' then Word.bound / 2 + 1 else Word.bound / 2

theorem signed_digits {sign : Nat → Int} (abs : ∀ n, (sign n).natAbs = n) (positive : 0 < narrow)
    (within : narrow ≤ Word.bound) : (∃ v, (digits narrow 0 ds).toOption.map sign = some v ∧ v.natAbs = n) ↔
      digits Word.bound 0 ds = .ok n ∧ n < narrow := by
  rw [← digits_narrow positive within]
  cases read : digits narrow 0 ds with
  | error cause => simp [Except.toOption]
  | ok m => simp [Except.toOption,abs]

theorem integer?_minus (nonempty : rest ≠ []) :
    integer? ('-' :: rest) = (digits (Word.bound / 2 + 1) 0 rest).toOption.map fun n : Nat => -(n : Int) := by
  obtain ⟨c,rest,rfl⟩ := List.exists_cons_of_ne_nil nonempty
  change ((digits (Word.bound / 2 + 1) 0 (c :: rest)).toOption.bind fun n => some (n : Int)).map (- ·) = _
  cases digits (Word.bound / 2 + 1) 0 (c :: rest) <;> rfl

theorem integer?_plus (nonempty : rest ≠ []) :
    integer? ('+' :: rest) = (digits (Word.bound / 2) 0 rest).toOption.map Int.ofNat := by
  obtain ⟨c,rest,rfl⟩ := List.exists_cons_of_ne_nil nonempty
  rfl

theorem integer?_unsigned (noMinus : c ≠ '-') (noPlus : c ≠ '+') :
    integer? (c :: rest) = (digits (Word.bound / 2) 0 (c :: rest)).toOption.map Int.ofNat := by
  unfold integer?
  split <;> simp_all

theorem integer?_exact : (∃ v, integer? text = some v ∧ v.natAbs = n) ↔
    ¬ ['-','+'] <+: text ∧ magnitude text = .ok n ∧ n < signedLimit text := by
  have within : Word.bound / 2 + 1 ≤ Word.bound := by decide
  cases text with
  | nil => simp [integer?,magnitude,natural]
  | cons c rest =>
    by_cases minus : c = '-'
    · subst minus
      have limit : signedLimit ('-' :: rest) = Word.bound / 2 + 1 := rfl
      cases rest with
      | nil => simp [integer?,magnitude,natural]
      | cons d rest =>
        by_cases plus : d = '+'
        · subst plus
          simp [integer?_minus,digits,digit?,Except.toOption]
        · have single : ¬ ['-','+'] <+: '-' :: d :: rest := by simpa [List.cons_prefix_cons] using Ne.symm plus
          have value : magnitude ('-' :: d :: rest) = digits Word.bound 0 (d :: rest) :=
            natural_unsigned (List.cons_ne_nil _ _) (by simpa using plus)
          rw [integer?_minus (List.cons_ne_nil _ _),value,limit,signed_digits (by simp) (by omega) within]
          exact (and_iff_right single).symm
    · have single : ¬ ['-','+'] <+: c :: rest := by simpa [List.cons_prefix_cons] using fun same => absurd same.symm minus
      have limit : signedLimit (c :: rest) = Word.bound / 2 := by simp [signedLimit,minus]
      rw [magnitude_unsigned (by simpa using minus),limit,and_iff_right single]
      by_cases plus : c = '+'
      · subst plus
        cases rest with
        | nil => simp [integer?,natural]
        | cons d rest =>
          rw [integer?_plus (List.cons_ne_nil _ _),signed_digits (fun _ => rfl) (by decide) (by omega)]
          rfl
      · rw [integer?_unsigned minus plus,natural_unsigned (List.cons_ne_nil _ _) (by simpa using plus),
          signed_digits (fun _ => rfl) (by decide) (by omega)]

section Written

theorem ofNat_nonempty : ofNat n ≠ [] := Nat.toDigits_ne_nil

theorem ofNat_digits : ∀ c ∈ ofNat n, c.isDigit = true := fun _ member =>
  Nat.isDigit_of_mem_toDigits (by decide) (by decide) member

theorem ofNat_head (noDigit : c.isDigit = false) : (ofNat n).head? ≠ some c := by
  intro first
  rw [ofNat_digits c (List.mem_of_head? first)] at noDigit
  cases noDigit

theorem natural_ofNat : natural (ofNat n) = .ok k ↔ k = n ∧ n < Word.bound := by
  have positive : 0 < Word.bound := by decide
  rw [natural_unsigned ofNat_nonempty (ofNat_head (by decide)),digits_ok_exact positive,ofNat,
    Nat.ofDigitChars_ten_toDigits]
  constructor
  · rintro ⟨_,rfl,below⟩
    exact ⟨rfl,below⟩
  · rintro ⟨rfl,below⟩
    exact ⟨ofNat_digits,rfl,below⟩

end Written

end CnfSearch.Text.Numeral

namespace CnfSearch
open Dimacs Text.Numeral

namespace Literal

theorem read_signed (text : List Char) : Literal.read text =
    match magnitude text with
    | .error e => .error (.notANumeral e)
    | .ok n =>
      match Variable.ofNat? n with
      | none => .error (.outOfRange n)
      | some x => .ok ⟨x,text.head? != some '-'⟩ := by
  have named : ∀ (text : List Char) (sign : Bool), (Variable.read text).map (⟨·,sign⟩ : Variable → Literal) =
      match natural text with
      | .error e => .error (.notANumeral e)
      | .ok n =>
        match Variable.ofNat? n with
        | none => .error (.outOfRange n)
        | some x => .ok ⟨x,sign⟩ := by
    intro text sign
    unfold Variable.read
    cases natural text with
    | error e => rfl
    | ok n => cases found : Variable.ofNat? n <;> simp [found,Except.map]
  cases text with
  | nil => exact named [] true
  | cons c rest =>
    by_cases minus : c = '-'
    · subst minus
      exact named rest false
    · have unsigned : Literal.read (c :: rest) = (Variable.read (c :: rest)).map (⟨·,true⟩) := by
        unfold Literal.read
        split <;> simp_all
      have noMinus : (c :: rest).head? ≠ some '-' := by simpa using minus
      rw [unsigned,named,magnitude_unsigned noMinus,bne_iff_ne.mpr noMinus]

theorem read_ok_exact : Literal.read text = .ok l ↔
    magnitude text = .ok l.var.id ∧ l.positive = (text.head? != some '-') := by
  obtain ⟨x,sign⟩ := l
  rw [read_signed]
  cases magnitude text with
  | error e => simp
  | ok n =>
    cases found : Variable.ofNat? n with
    | none =>
      have other : n ≠ x.id := fun same => by rw [same,Variable.ofNat?_id] at found; cases found
      simp [found,other]
    | some y =>
      have id := Variable.ofNat?_exact.mp found
      simp only [found,Except.ok.injEq,Literal.mk.injEq]
      constructor
      · rintro ⟨rfl,rfl⟩
        exact ⟨id.symm,rfl⟩
      · rintro ⟨same,rfl⟩
        exact ⟨Variable.eq_of_id (id.trans same),rfl⟩

theorem read_outOfRange_exact : Literal.read text = .error (.outOfRange n) ↔
    magnitude text = .ok n ∧ (n = 0 ∨ Variable.maxId < n) := by
  rw [read_signed,← Variable.ofNat?_none]
  cases magnitude text with
  | error e => simp
  | ok m =>
    cases found : Variable.ofNat? m with
    | none =>
      simp only [found,Except.error.injEq,VariableError.outOfRange.injEq,Except.ok.injEq]
      constructor
      · rintro rfl
        exact ⟨rfl,found⟩
      · exact And.left
    | some y =>
      simp only [found,Except.ok.injEq]
      constructor
      · rintro ⟨⟩
      · rintro ⟨rfl,none⟩
        rw [found] at none
        cases none

theorem read_numeral_exact : Literal.read text = .error (.notANumeral e) ↔ magnitude text = .error e := by
  rw [read_signed]
  cases magnitude text with
  | error other => simp
  | ok m => cases found : Variable.ofNat? m <;> simp [found]

section Token
variable (l : Literal)

theorem token_sign : l.positive = (l.token.head? != some '-') := by
  unfold token
  cases l.positive with
  | true => exact (bne_iff_ne.mpr (ofNat_head (by decide))).symm
  | false => rfl

theorem token_magnitude : magnitude l.token = .ok l.var.id := by
  have named : natural (ofNat l.var.id) = .ok l.var.id := natural_ofNat.mpr ⟨rfl,l.var.inRange.trans_lt (by decide)⟩
  unfold token
  split
  · rw [magnitude_unsigned (ofNat_head (by decide)),named]
  · exact named

theorem read_token : Literal.read l.token = .ok l := read_ok_exact.mpr ⟨l.token_magnitude,l.token_sign⟩

theorem token_chars : ∀ c ∈ l.token, c.isDigit = true ∨ c = '-' := by
  intro c member
  unfold token at member
  split at member
  · exact .inl (ofNat_digits c member)
  · rcases List.mem_cons.mp member with rfl | later
    · exact .inr rfl
    · exact .inl (ofNat_digits c later)

theorem token_integer : (integer? l.token).any (· != 0) = true := by
  have single : ¬ ['-','+'] <+: l.token := by
    intro twice
    have plus := l.token_chars '+' (twice.subset (List.mem_cons_of_mem _ List.mem_cons_self))
    simp at plus
  have small : l.var.id < signedLimit l.token := by
    have inRange : l.var.id < Word.bound / 2 := l.var.inRange.trans_lt (by decide)
    unfold signedLimit
    split <;> omega
  obtain ⟨v,read,abs⟩ := integer?_exact.mpr ⟨single,l.token_magnitude,small⟩
  have positive := l.var.positive
  have nonzero : v ≠ 0 := by omega
  simpa [read] using nonzero

end Token

end Literal
end CnfSearch
