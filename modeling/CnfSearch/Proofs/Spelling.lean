import CnfSearch.Proofs.Numerals

-- How a token is written that names a literal, and what is said of every other token.
namespace CnfSearch
open Dimacs Text.Numeral

namespace Text.Numeral

def withSign (present : Bool) (sign : Char) (rest : List Char) : List Char :=
  if present then sign :: rest else rest

-- The sign has been taken off if there was one.
def Unsigned (present : Bool) (sign : Char) (rest : List Char) : Prop :=
  present = false → rest.head? ≠ some sign

theorem exists_withSign (sign : Char) (text : List Char) :
    ∃ present rest, text = withSign present sign rest ∧ Unsigned present sign rest := by
  by_cases first : text.head? = some sign
  · obtain ⟨rest,rfl⟩ := List.head?_eq_some_iff.mp first
    exact ⟨true,rest,rfl,fun absent => by cases absent⟩
  · exact ⟨false,text,rfl,fun _ => first⟩

theorem withSign_cancel : withSign present sign a = withSign present sign b ↔ a = b := by
  cases present <;> simp [withSign]

theorem withSign_isPrefix {mine yours : Bool} (first : a.head? = some c) (other : c ≠ sign)
    (unsigned : Unsigned yours sign b) :
    withSign mine sign a <+: withSign yours sign b ↔ mine = yours ∧ a <+: b := by
  obtain ⟨rest,rfl⟩ := List.head?_eq_some_iff.mp first
  cases mine <;> cases yours
  · exact (and_iff_right rfl).symm
  · simp [withSign,other]
  · have apart : ¬ sign :: c :: rest <+: b := by
      rintro ⟨after,rfl⟩
      exact unsigned rfl rfl
    simp [withSign,apart]
  · simp [withSign]

theorem exists_signs (text : List Char) : ∃ m p rest, text = withSign m '-' (withSign p '+' rest) ∧
    Unsigned m '-' (withSign p '+' rest) ∧ Unsigned p '+' rest := by
  obtain ⟨m,rest,rfl,noMinus⟩ := exists_withSign '-' text
  obtain ⟨p,rest,rfl,noPlus⟩ := exists_withSign '+' rest
  exact ⟨m,p,rest,rfl,noMinus,noPlus⟩

end Text.Numeral

-- A plus sign may follow the minus sign, and zeros may lead.
structure Spelling where
  minus : Bool
  plus : Bool
  digits : List Char
  nonempty : digits ≠ []
  decimal : ∀ c ∈ digits, c.isDigit = true

namespace Spelling

def text (s : Spelling) : List Char := withSign s.minus '-' (withSign s.plus '+' s.digits)

def value (s : Spelling) : Nat := Nat.ofDigitChars 10 s.digits 0

theorem exists_head (s : Spelling) : ∃ c, s.digits.head? = some c ∧ c ≠ '-' ∧ c ≠ '+' := by
  obtain ⟨c,rest,digits⟩ := List.exists_cons_of_ne_nil s.nonempty
  have digit : c.isDigit = true := s.decimal c (by simp [digits])
  refine ⟨c,by simp [digits],?_,?_⟩
  · rintro rfl
    cases digit
  · rintro rfl
    cases digit

theorem text_sign (s : Spelling) : (s.text.head? != some '-') = !s.minus := by
  obtain ⟨c,first,notMinus,_⟩ := s.exists_head
  unfold text
  cases s.minus with
  | true => simp [withSign]
  | false => cases s.plus <;> simp [withSign,first,notMinus]

section Signs
variable {m p : Bool} {rest : List Char} (noMinus : Unsigned m '-' (withSign p '+' rest))
  (noPlus : Unsigned p '+' rest)
include noMinus noPlus

-- No digit is a sign, so a token that begins with a spelling has the spelling's signs.
theorem text_isPrefix (s : Spelling) : s.text <+: withSign m '-' (withSign p '+' rest) ↔
    s.minus = m ∧ s.plus = p ∧ s.digits <+: rest := by
  obtain ⟨c,first,notMinus,notPlus⟩ := s.exists_head
  rw [← withSign_isPrefix first notPlus noPlus,text]
  cases s.plus with
  | true => exact withSign_isPrefix rfl (by decide) noMinus
  | false => exact withSign_isPrefix first notMinus noMinus

theorem text_exact (s : Spelling) : s.text = withSign m '-' (withSign p '+' rest) ↔
    s.minus = m ∧ s.plus = p ∧ s.digits = rest := by
  constructor
  · intro same
    obtain ⟨rfl,rfl,_⟩ := (s.text_isPrefix noMinus noPlus).mp (same ▸ List.prefix_rfl)
    exact ⟨rfl,rfl,withSign_cancel.mp (withSign_cancel.mp same)⟩
  · rintro ⟨rfl,rfl,rfl⟩
    rfl

end Signs
end Spelling

namespace Text.Numeral

-- Digits are too large as soon as those read so far are, whatever comes after them.
theorem digits_tooLarge_exact (fits : value < limit) : digits limit value ds = .error .tooLarge ↔
    ∃ seen, seen <+: ds ∧ (∀ c ∈ seen, c.isDigit = true) ∧ limit ≤ Nat.ofDigitChars 10 seen value := by
  induction ds generalizing value with
  | nil => simpa [digits] using fits
  | cons c ds ih =>
    have first : ∀ seen, seen <+: c :: ds → limit ≤ Nat.ofDigitChars 10 seen value →
        ∃ more, seen = c :: more ∧ more <+: ds := by
      intro seen begins large
      cases seen with
      | nil => rw [Nat.ofDigitChars_nil] at large; omega
      | cons d more =>
        obtain ⟨rfl,later⟩ := List.cons_prefix_cons.mp begins
        exact ⟨more,rfl,later⟩
    rw [digits,digit?]
    cases digit : c.isDigit with
    | false =>
      simp only [Bool.false_eq_true,if_false,Except.error.injEq,reduceCtorEq,false_iff]
      rintro ⟨seen,begins,decimal,large⟩
      obtain ⟨more,rfl,_⟩ := first seen begins large
      rw [decimal c List.mem_cons_self] at digit
      cases digit
    | true =>
      simp only [if_true]
      split
      · rename_i below
        rw [ih below]
        constructor
        · rintro ⟨seen,begins,decimal,large⟩
          exact ⟨c :: seen,List.cons_prefix_cons.mpr ⟨rfl,begins⟩,List.forall_mem_cons.mpr ⟨digit,decimal⟩,large⟩
        · rintro ⟨seen,begins,decimal,large⟩
          obtain ⟨more,rfl,later⟩ := first seen begins large
          exact ⟨more,later,(List.forall_mem_cons.mp decimal).2,large⟩
      · rename_i above
        refine iff_of_true rfl ⟨[c],⟨ds,rfl⟩,by simpa using digit,?_⟩
        rw [Nat.ofDigitChars_cons,Nat.ofDigitChars_nil]
        omega

theorem digits_nonempty : digits limit value ds ≠ .error .empty := by
  induction ds generalizing value with
  | nil => simp [digits]
  | cons c ds ih =>
    rw [digits]
    split
    · simp
    · split
      · exact ih
      · simp

section Signs
variable {m p : Bool} {rest : List Char} (noMinus : Unsigned m '-' (withSign p '+' rest))
  (noPlus : Unsigned p '+' rest)

include noPlus in
theorem natural_withSign : natural (withSign p '+' rest) =
    if rest = [] then .error (if p then .invalidDigit else .empty) else digits Word.bound 0 rest := by
  cases rest with
  | nil => cases p <;> rfl
  | cons c rest =>
    cases p with
    | true => rfl
    | false => exact natural_unsigned (List.cons_ne_nil _ _) (noPlus rfl)

include noMinus noPlus in
theorem magnitude_withSign : magnitude (withSign m '-' (withSign p '+' rest)) =
    if rest = [] then .error (if p then .invalidDigit else .empty) else digits Word.bound 0 rest := by
  rw [← natural_withSign noPlus]
  cases m with
  | true => rfl
  | false => exact magnitude_unsigned (noMinus rfl)

end Signs

section Magnitude
variable {text : List Char}

theorem magnitude_ok_exact : magnitude text = .ok n ↔ ∃ s : Spelling, s.text = text ∧ s.value = n ∧ n < Word.bound := by
  obtain ⟨m,p,rest,rfl,noMinus,noPlus⟩ := exists_signs text
  rw [magnitude_withSign noMinus noPlus]
  split
  · rename_i none
    refine iff_of_false (by simp) ?_
    rintro ⟨s,same,_⟩
    exact s.nonempty (((s.text_exact noMinus noPlus).mp same).2.2.trans none)
  · rename_i some
    rw [digits_ok_exact (by decide)]
    constructor
    · rintro ⟨decimal,value,below⟩
      exact ⟨⟨m,p,rest,some,decimal⟩,rfl,value,below⟩
    · rintro ⟨s,same,value,below⟩
      obtain ⟨_,_,rfl⟩ := (s.text_exact noMinus noPlus).mp same
      exact ⟨s.decimal,value,below⟩

theorem magnitude_tooLarge_exact : magnitude text = .error .tooLarge ↔
    ∃ s : Spelling, s.text <+: text ∧ Word.bound ≤ s.value := by
  obtain ⟨m,p,rest,rfl,noMinus,noPlus⟩ := exists_signs text
  rw [magnitude_withSign noMinus noPlus]
  split
  · rename_i none
    refine iff_of_false (by split <;> simp) ?_
    rintro ⟨s,begins,_⟩
    have begins := ((s.text_isPrefix noMinus noPlus).mp begins).2.2
    rw [none] at begins
    exact s.nonempty (List.prefix_nil.mp begins)
  · rw [digits_tooLarge_exact (by decide)]
    constructor
    · rintro ⟨seen,begins,decimal,large⟩
      have some : seen ≠ [] := by
        rintro rfl
        rw [Nat.ofDigitChars_nil] at large
        exact absurd large (by decide)
      let s : Spelling := ⟨m,p,seen,some,decimal⟩
      exact ⟨s,(s.text_isPrefix noMinus noPlus).mpr ⟨rfl,rfl,begins⟩,large⟩
    · rintro ⟨s,begins,large⟩
      exact ⟨s.digits,((s.text_isPrefix noMinus noPlus).mp begins).2.2,s.decimal,large⟩

theorem natural_empty_exact : natural text = .error .empty ↔ text = [] := by
  obtain ⟨p,rest,rfl,noPlus⟩ := exists_withSign '+' text
  rw [natural_withSign noPlus]
  split
  · rename_i none
    subst none
    cases p <;> simp [withSign]
  · rename_i some
    refine iff_of_false digits_nonempty ?_
    cases p <;> simp [withSign,some]

theorem magnitude_empty_exact : magnitude text = .error .empty ↔ text = [] ∨ text = ['-'] := by
  obtain ⟨m,rest,rfl,noMinus⟩ := exists_withSign '-' text
  cases m with
  | true =>
    change natural rest = _ ↔ _
    rw [natural_empty_exact]
    simp [withSign]
  | false =>
    have other : rest ≠ ['-'] := by
      rintro rfl
      exact noMinus rfl rfl
    change magnitude rest = _ ↔ rest = _ ∨ rest = _
    rw [magnitude_unsigned (noMinus rfl),natural_empty_exact,or_iff_left other]

theorem magnitude_text (s : Spelling) :
    magnitude s.text = if s.value < Word.bound then .ok s.value else .error .tooLarge := by
  split
  · rename_i below
    exact magnitude_ok_exact.mpr ⟨s,rfl,rfl,below⟩
  · rename_i above
    exact magnitude_tooLarge_exact.mpr ⟨s,List.prefix_rfl,Nat.le_of_not_lt above⟩

-- Where nothing else is wrong, some character stands in the place of a digit.
theorem magnitude_invalidDigit_exact : magnitude text = .error .invalidDigit ↔
    ¬ (text = [] ∨ text = ['-']) ∧ (¬ ∃ s : Spelling, s.text = text) ∧
      ¬ ∃ s : Spelling, s.text <+: text ∧ Word.bound ≤ s.value := by
  rw [← magnitude_empty_exact,← magnitude_tooLarge_exact]
  cases read : magnitude text with
  | ok n =>
    obtain ⟨s,same,_⟩ := magnitude_ok_exact.mp read
    exact iff_of_false (by simp) fun ⟨_,unspelled,_⟩ => unspelled ⟨s,same⟩
  | error cause =>
    cases cause with
    | empty => simp
    | tooLarge => simp
    | invalidDigit =>
      refine iff_of_true rfl ⟨by simp,?_,by simp⟩
      rintro ⟨s,rfl⟩
      rw [magnitude_text] at read
      split at read <;> cases read

end Magnitude
end Text.Numeral

namespace Literal
variable {text : List Char} {l m : Literal}

theorem read_text_exact (s : Spelling) :
    Literal.read s.text = .ok l ↔ l.var.id = s.value ∧ l.positive = !s.minus := by
  rw [read_ok_exact,s.text_sign,magnitude_text]
  split
  · rw [Except.ok.injEq,eq_comm]
  · rename_i above
    refine iff_of_false (by simp) fun ⟨same,_⟩ => above ?_
    rw [← same]
    exact l.var.inRange.trans_lt (by decide)

theorem read_ok_spelled : Literal.read text = .ok l ↔
    ∃ s : Spelling, s.text = text ∧ l.var.id = s.value ∧ l.positive = !s.minus := by
  constructor
  · intro read
    obtain ⟨s,rfl,_⟩ := magnitude_ok_exact.mp (read_ok_exact.mp read).1
    exact ⟨s,rfl,(read_text_exact s).mp read⟩
  · rintro ⟨s,rfl,named⟩
    exact (read_text_exact s).mpr named

theorem read_outOfRange_spelled : Literal.read text = .error (.outOfRange n) ↔
    ∃ s : Spelling, s.text = text ∧ s.value = n ∧ (n = 0 ∨ Variable.maxId < n) ∧ n < Word.bound := by
  rw [read_outOfRange_exact,magnitude_ok_exact]
  constructor
  · rintro ⟨⟨s,same,value,below⟩,outside⟩
    exact ⟨s,same,value,outside,below⟩
  · rintro ⟨s,same,value,outside,below⟩
    exact ⟨⟨s,same,value,below⟩,outside⟩

theorem read_text_same {s t : Spelling} (readS : Literal.read s.text = .ok l) (readT : Literal.read t.text = .ok m) :
    l = m ↔ s.minus = t.minus ∧ s.value = t.value := by
  obtain ⟨nameS,signS⟩ := (read_text_exact s).mp readS
  obtain ⟨nameT,signT⟩ := (read_text_exact t).mp readT
  rw [← nameS,← nameT,← Bool.not_inj_iff,← signS,← signT]
  constructor
  · rintro rfl
    exact ⟨rfl,rfl⟩
  · rintro ⟨sign,name⟩
    exact congrArg₂ Literal.mk (Variable.eq_of_id name) sign

theorem read_classifies :
    (∀ text l, Literal.read text = .ok l ↔ ∃ s : Spelling, s.text = text ∧
      (1 ≤ s.value ∧ s.value ≤ 2 ^ 32 - 1) ∧ l.var.id = s.value ∧ l.positive = !s.minus) ∧
    (∀ text n, Literal.read text = .error (.outOfRange n) ↔ ∃ s : Spelling, s.text = text ∧
      s.value = n ∧ (n = 0 ∨ 2 ^ 32 ≤ n ∧ n ≤ 2 ^ 64 - 1)) ∧
    (∀ text, Literal.read text = .error (.notANumeral .empty) ↔ text = [] ∨ text = ['-']) ∧
    (∀ text, Literal.read text = .error (.notANumeral .tooLarge) ↔
      ∃ s : Spelling, s.text <+: text ∧ 2 ^ 64 - 1 < s.value) ∧
    (∀ text, Literal.read text = .error (.notANumeral .invalidDigit) ↔
      ¬ (text = [] ∨ text = ['-']) ∧ (¬ ∃ s : Spelling, s.text = text) ∧
        ¬ ∃ s : Spelling, s.text <+: text ∧ 2 ^ 64 - 1 < s.value) ∧
    (∀ (s t : Spelling) (l m : Literal), Literal.read s.text = .ok l → Literal.read t.text = .ok m →
      (l = m ↔ s.minus = t.minus ∧ s.value = t.value)) ∧
    ∀ l : Literal, Literal.read l.token = .ok l := by
  have top : Variable.maxId = 2 ^ 32 - 1 := by decide
  have bound : Word.bound = 2 ^ 64 := by decide
  have large : ∀ n, 2 ^ 64 - 1 < n ↔ Word.bound ≤ n := by omega
  have outside : ∀ n, n = 0 ∨ 2 ^ 32 ≤ n ∧ n ≤ 2 ^ 64 - 1 ↔ (n = 0 ∨ Variable.maxId < n) ∧ n < Word.bound := by omega
  refine ⟨?_,?_,?_,?_,?_,?_,read_token⟩
  · intro text l
    have positive := l.var.positive
    have inRange := l.var.inRange
    rw [read_ok_spelled]
    constructor
    · rintro ⟨s,same,named,sign⟩
      exact ⟨s,same,by omega,named,sign⟩
    · rintro ⟨s,same,_,named⟩
      exact ⟨s,same,named⟩
  · intro text n
    rw [read_outOfRange_spelled,outside]
  · intro text
    rw [read_numeral_exact,magnitude_empty_exact]
  · intro text
    simp only [large]
    rw [read_numeral_exact,magnitude_tooLarge_exact]
  · intro text
    simp only [large]
    rw [read_numeral_exact,magnitude_invalidDigit_exact]
  · intro s t l m readS readT
    exact read_text_same readS readT

-- A plus sign after the minus sign and two zeros change nothing about the literal that is read.
theorem read_classifies_padded :
    let s : Spelling := ⟨true,true,['0','0','7'],by simp,by simp⟩
    let t : Spelling := ⟨true,false,['7'],by simp,by simp⟩
    let l : Literal := ⟨⟨7,by decide,by decide⟩,false⟩
    Literal.read s.text = .ok l ∧ Literal.read t.text = .ok l ∧ s.minus = t.minus ∧ s.value = t.value := by
  intro s t l
  have readS : Literal.read s.text = .ok l := by decide +kernel
  have readT : Literal.read t.text = .ok l := by decide +kernel
  exact ⟨readS,readT,(read_classifies.2.2.2.2.2.1 s t l l readS readT).mp rfl⟩

end Literal
end CnfSearch
