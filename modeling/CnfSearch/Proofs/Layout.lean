import CnfSearch.Proofs.Numerals
import CnfSearch.Proofs.ProblemLines

-- Every way of placing the tokens of a formula, with blanks, line breaks and comments.
namespace CnfSearch.Dimacs

structure Spacing where
  chars : List Char
  blank : ∀ c ∈ chars, Text.isBlank c = true
  noFeed : '\n' ∉ chars

structure Filler where
  chars : List Char
  noFeed : '\n' ∉ chars
  idle : Text.tokens chars = [] ∨ ∃ name rest, Text.tokens chars = ('c' :: name) :: rest

-- A line before the first clause: it begins with no integer and is no line that counts.
structure Preamble where
  chars : List Char
  noFeed : '\n' ∉ chars
  unread : ∀ first ∈ (Text.tokens chars).head?, Text.Numeral.integer? first = none ∧ first ≠ ['p'] ∧ first ≠ ['%']

-- What stands between two tokens of a clause: blanks, or the end of a row, whole lines that
-- say nothing, and the blanks before the next token.
inductive Gap where
  | blanks (spacing : Spacing) (nonempty : spacing.chars ≠ [])
  | newRow (trailing : Spacing) (between : List Filler) (leading : Spacing)

-- A clause begins in a row of its own, and its zero is the last token of its row.
structure Written where
  before : List Filler
  leading : Spacing
  first : Literal
  rest : List (Gap × Literal)
  closing : Gap
  trailing : Spacing

structure Layout where
  preamble : List Preamble
  clauses : List Written
  after : List Filler

def fillerChars (fillers : List Filler) : List Char := Text.terminate (fillers.map Filler.chars)

def Gap.chars : Gap → List Char
  | .blanks spacing _ => spacing.chars
  | .newRow trailing between leading => trailing.chars ++ '\n' :: (fillerChars between ++ leading.chars)

namespace Written
variable (w : Written)

def clause : Clause := w.first :: w.rest.map Prod.snd

def pieces : List (Gap × List Char) := w.rest.map (fun piece => (piece.1,piece.2.token)) ++ [(w.closing,['0'])]

def chars : List Char :=
  fillerChars w.before ++ w.leading.chars ++ w.first.token ++
    w.pieces.flatMap (fun piece => piece.1.chars ++ piece.2) ++ w.trailing.chars ++ ['\n']

end Written

namespace Layout
variable (y : Layout)

def formula : Formula := ⟨y.clauses.map Written.clause⟩

def chars : List Char :=
  Text.terminate (y.preamble.map Preamble.chars) ++ y.clauses.flatMap Written.chars ++ fillerChars y.after

end Layout

section Plain

def Spacing.none : Spacing := ⟨[],by simp,by simp⟩
def Spacing.space : Spacing := ⟨[' '],List.forall_mem_singleton.mpr (by decide),by decide⟩

def Written.plain (first : Literal) (rest : List Literal) : Written where
  before := []
  leading := .none
  first := first
  rest := rest.map fun l => (.blanks .space (List.cons_ne_nil _ _),l)
  closing := .blanks .space (List.cons_ne_nil _ _)
  trailing := .none

theorem Written.plain_clause (first : Literal) (rest : List Literal) : (plain first rest).clause = first :: rest := by
  simp [Written.clause,plain,Function.comp_def]

theorem Layout.formula_exact : (∃ y : Layout, y.formula = f) ↔ ∀ c ∈ f.clauses, c ≠ [] := by
  constructor
  · rintro ⟨y,rfl⟩ c member
    obtain ⟨w,_,rfl⟩ := List.mem_map.mp member
    exact List.cons_ne_nil _ _
  · intro nonempty
    obtain ⟨clauses⟩ := f
    have written : ∀ c ∈ clauses, ∃ w : Written, w.clause = c := by
      intro c member
      obtain ⟨first,rest,rfl⟩ := List.exists_cons_of_ne_nil (nonempty c member)
      exact ⟨_,Written.plain_clause first rest⟩
    obtain ⟨ws,same⟩ : clauses ∈ Set.range (List.map Written.clause) := by
      rw [Set.range_list_map]
      exact written
    exact ⟨⟨[],ws,[]⟩,congrArg Formula.mk same⟩

end Plain

-- A problem line that keeps its promise to a formula.
structure Header (f : Formula) where
  chars : List Char
  noFeed : '\n' ∉ chars
  trailing : List (List Char)
  tokens : Text.tokens chars = ['p'] :: ['c','n','f'] :: Text.Numeral.ofNat f.occurring.dedup.length ::
    Text.Numeral.ofNat f.clauses.length :: trailing

structure Ending where
  leading : Spacing
  rest : List Char
  parted : ∀ c ∈ rest.head?, Text.isBlank c = true

def Header.line (h : Header f) : List Char := h.chars ++ ['\n']
def Ending.chars (e : Ending) : List Char := e.leading.chars ++ '%' :: e.rest

-- There may be a problem line between any two lines, and the last line feed may be missing.
inductive Layout.Writes (y : Layout) : List Char → Prop where
  | whole (front back : List Char) (parts : y.chars = front ++ back) (between : Text.EndsRow front)
      (header : Option (Header y.formula)) (ending : Option Ending) :
      Writes y (front ++ header.elim [] Header.line ++ back ++ ending.elim [] Ending.chars)
  | unfed (fed : Writes y (text ++ ['\n'])) : Writes y text

-- A token of digits, or of digits and a sign: a literal, or the zero that ends a clause.
structure Numeric (token : List Char) : Prop where
  nonempty : token ≠ []
  chars : ∀ c ∈ token, c.isDigit = true ∨ c = '-'

theorem numeric_literal (l : Literal) : Numeric l.token where
  nonempty := by
    unfold Literal.token
    split
    · exact Text.Numeral.ofNat_nonempty
    · exact List.cons_ne_nil _ _
  chars := l.token_chars

theorem numeric_zero : Numeric ['0'] := ⟨List.cons_ne_nil _ _,List.forall_mem_singleton.mpr (.inl rfl)⟩

namespace Numeric
variable {token : List Char} (numeric : Numeric token)
include numeric

theorem lacks (noDigit : c.isDigit = false) (noSign : c ≠ '-') : c ∉ token := by
  intro member
  rcases numeric.chars c member with digit | sign
  · rw [digit] at noDigit
    cases noDigit
  · exact noSign sign

theorem solid : ∀ c ∈ token, Text.isBlank c = false := by
  intro c member
  rcases numeric.chars c member with digit | rfl
  · have bounds : 48 ≤ c.toNat ∧ c.toNat ≤ 57 := by simpa [Char.isDigit,UInt32.le_iff_toNat_le] using digit
    simp [Text.isBlank]
    omega
  · decide

theorem noFeed : '\n' ∉ token := numeric.lacks (by decide) (by decide)

theorem differs (noDigit : c.isDigit = false) (noSign : c ≠ '-') : token ≠ [c] := by
  rintro rfl
  exact numeric.lacks noDigit noSign List.mem_cons_self

theorem notComment : token.head? ≠ some 'c' := fun first =>
  numeric.lacks (by decide) (by decide) (List.mem_of_head? first)

theorem tokens_led (leading : Spacing) : Text.tokens (leading.chars ++ token) = [token] := by
  rw [Text.tokens_blanks_append leading.blank,Text.tokens_solid numeric.nonempty numeric.solid]

theorem tokens_spaced (spacing : Spacing) (nonempty : spacing.chars ≠ []) (line : List Char) :
    Text.tokens (line ++ (spacing.chars ++ token)) = Text.tokens line ++ [token] := by
  have led := numeric.tokens_led spacing
  have blank := spacing.blank
  obtain ⟨c,more,parts⟩ := List.exists_cons_of_ne_nil nonempty
  rw [parts] at led blank ⊢
  have blank := blank c List.mem_cons_self
  rw [List.cons_append,Text.tokens,if_pos blank] at led
  rw [List.cons_append,Text.tokens_append_blank blank,led]

end Numeric

def bodyTokens (rows : List (List Char)) : List (List Char) :=
  (rows.filter fun row => !NumberedLine.isPassedOver ⟨0,row⟩).flatMap Text.tokens

structure Carries (text : List Char) (ts : List (List Char)) : Prop where
  ends : Text.EndsRow text
  notEnding : ∀ row ∈ Text.rows text, isEndMarker row = false
  notProblem : ∀ row ∈ Text.rows text, isProblem row = false
  tokens : bodyTokens (Text.rows text) = ts

namespace Carries

theorem nil : Carries [] [] := ⟨.inl rfl,by simp [Text.rows],by simp [Text.rows],rfl⟩

theorem append (first : Carries front ss) (second : Carries back ts) : Carries (front ++ back) (ss ++ ts) := by
  have cut := Text.rows_append first.ends back
  refine ⟨?_,?_,?_,?_⟩
  · exact Text.endsRow_append first.ends second.ends
  · rw [cut]
    exact List.forall_mem_append.mpr ⟨first.notEnding,second.notEnding⟩
  · rw [cut]
    exact List.forall_mem_append.mpr ⟨first.notProblem,second.notProblem⟩
  · rw [cut,bodyTokens,List.filter_append,List.flatMap_append]
    exact congrArg₂ (· ++ ·) first.tokens second.tokens

theorem row (noFeed : '\n' ∉ line) (notEnding : (Text.tokens line).head? ≠ some ['%'])
    (notProblem : (Text.tokens line).head? ≠ some ['p']) (tokens : bodyTokens [line] = ts) :
    Carries (line ++ ['\n']) ts := by
  have single : Text.rows (line ++ ['\n']) = [line ++ ['\n']] := Text.rows_feed noFeed []
  have same := Text.tokens_feed line
  refine ⟨.inr List.getLast?_concat,?_,?_,?_⟩
  · rw [single,List.forall_mem_singleton,isEndMarker,same]
    simpa using notEnding
  · rw [single,List.forall_mem_singleton,isProblem,same]
    simpa using notProblem
  · have passed : NumberedLine.isPassedOver ⟨0,line ++ ['\n']⟩ = NumberedLine.isPassedOver ⟨0,line⟩ :=
      isPassedOver_tokens same
    rw [← tokens,single,bodyTokens,bodyTokens,List.filter_singleton,List.filter_singleton,passed]
    cases NumberedLine.isPassedOver ⟨0,line⟩ <;> simp [same]

theorem filler (f : Filler) : Carries (f.chars ++ ['\n']) [] := by
  rcases f.idle with blank | ⟨name,rest,comment⟩
  · exact row f.noFeed (by simp [blank]) (by simp [blank])
      (by simp [bodyTokens,NumberedLine.isPassedOver,NumberedLine.tokens,blank])
  · exact row f.noFeed (by simp [comment]) (by simp [comment])
      (by simp [bodyTokens,NumberedLine.isPassedOver,NumberedLine.tokens,comment])

theorem fillers (fs : List Filler) : Carries (fillerChars fs) [] := by
  induction fs with
  | nil => exact nil
  | cons f fs ih => exact (filler f).append ih

theorem numericRow (noFeed : '\n' ∉ line) (begins : Text.tokens line = first :: rest) (numeric : Numeric first) :
    Carries (line ++ ['\n']) (Text.tokens line) := by
  have notProblem := numeric.differs (c := 'p') (by decide) (by decide)
  have notEnding := numeric.differs (c := '%') (by decide) (by decide)
  refine row noFeed (by simpa [begins] using notEnding) (by simpa [begins] using notProblem) ?_
  have kept : NumberedLine.isPassedOver ⟨0,line⟩ = false := by
    simp [NumberedLine.isPassedOver,NumberedLine.tokens,begins,notProblem,numeric.notComment]
  simp [bodyTokens,kept]

-- What a row has begun is carried on by the tokens that follow it, whether a gap keeps them
-- in the row or starts new ones.
theorem run (pieces : List (Gap × List Char)) (numeric : ∀ piece ∈ pieces, Numeric piece.2) (trailing : Spacing)
    (noFeed : '\n' ∉ line) (begins : Text.tokens line = first :: rest) (starts : Numeric first) :
    Carries (line ++ pieces.flatMap (fun piece => piece.1.chars ++ piece.2) ++ trailing.chars ++ ['\n'])
      (Text.tokens line ++ pieces.map Prod.snd) := by
  induction pieces generalizing line rest first with
  | nil =>
    have same := Text.tokens_append_blanks trailing.blank line
    have carried := numericRow (List.not_mem_append noFeed trailing.noFeed) (same.trans begins) starts
    simpa [same] using carried
  | cons piece pieces ih =>
    obtain ⟨gap,token⟩ := piece
    obtain ⟨here,later⟩ := List.forall_mem_cons.mp numeric
    cases gap with
    | blanks spacing nonempty =>
      have joined := here.tokens_spaced spacing nonempty line
      have onward : Text.tokens (line ++ (spacing.chars ++ token)) = first :: (rest ++ [token]) := by
        rw [joined,begins,List.cons_append]
      have carried := ih later (List.not_mem_append noFeed (List.not_mem_append spacing.noFeed here.noFeed)) onward starts
      simpa [joined,Gap.chars,List.append_assoc] using carried
    | newRow trailing between leading =>
      have ended := numericRow (List.not_mem_append noFeed trailing.noFeed)
        ((Text.tokens_append_blanks trailing.blank line).trans begins) starts
      have carried := ih later (List.not_mem_append leading.noFeed here.noFeed) (here.tokens_led leading) here
      have whole := ended.append ((fillers between).append carried)
      simpa [here.tokens_led,Text.tokens_append_blanks trailing.blank,Gap.chars,List.append_assoc] using whole

theorem written (w : Written) : Carries w.chars (w.clause.map Literal.token ++ [['0']]) := by
  have starts := numeric_literal w.first
  have alone := starts.tokens_led w.leading
  have numeric : ∀ piece ∈ w.pieces, Numeric piece.2 := by
    intro piece member
    rcases List.mem_append.mp member with literal | closing
    · obtain ⟨_,_,rfl⟩ := List.mem_map.mp literal
      exact numeric_literal _
    · rw [List.mem_singleton.mp closing]
      exact numeric_zero
  have carried := (fillers w.before).append
    (run w.pieces numeric w.trailing (List.not_mem_append w.leading.noFeed starts.noFeed) alone starts)
  simpa [alone,Written.chars,Written.pieces,Written.clause,Function.comp_def,List.append_assoc] using carried

theorem clauses (ws : List Written) :
    Carries (ws.flatMap Written.chars) (ws.flatMap fun w => w.clause.map Literal.token ++ [['0']]) := by
  induction ws with
  | nil => exact nil
  | cons w ws ih => exact (written w).append ih

theorem preamble (ps : List Preamble) :
    Carries (Text.terminate (ps.map Preamble.chars)) (bodyTokens (ps.map Preamble.chars)) := by
  induction ps with
  | nil => exact nil
  | cons p ps ih =>
    have first : Carries (p.chars ++ ['\n']) (bodyTokens [p.chars]) := row p.noFeed
      (fun ending => (p.unread _ ending).2.2 rfl) (fun problem => (p.unread _ problem).2.1 rfl) rfl
    have joined : bodyTokens ((p :: ps).map Preamble.chars) = bodyTokens [p.chars] ++ bodyTokens (ps.map Preamble.chars) := by
      rw [bodyTokens,bodyTokens,bodyTokens,← List.flatMap_append,← List.filter_append]
      rfl
    rw [joined]
    exact first.append ih

theorem layout (y : Layout) : ∃ ts, Carries y.chars ts :=
  ⟨_,((preamble y.preamble).append (clauses y.clauses)).append (fillers y.after)⟩

end Carries

theorem preamble_unread (ps : List Preamble) :
    ∀ row ∈ Text.rows (Text.terminate (ps.map Preamble.chars)), ∀ first ∈ (Text.tokens row).head?,
      Text.Numeral.integer? first = none := by
  induction ps with
  | nil => simp [Text.terminate,Text.rows]
  | cons p ps ih =>
    have cut : Text.rows (Text.terminate ((p :: ps).map Preamble.chars)) =
        (p.chars ++ ['\n']) :: Text.rows (Text.terminate (ps.map Preamble.chars)) := by
      rw [← Text.rows_feed p.noFeed]
      simp [Text.terminate]
    rw [cut,List.forall_mem_cons,Text.tokens_feed]
    exact ⟨fun first member => (p.unread first member).1,ih⟩

end CnfSearch.Dimacs
