import CnfSearch.Dimacs.Parsed
import CnfSearch.Proofs.Tokens

-- What a text means, said of the text as a whole.
namespace CnfSearch.Dimacs

structure NumberedLine where
  number : Nat
  text : List Char
  deriving DecidableEq

def numberFrom (number : Nat) : List (List Char) → List NumberedLine
  | [] => []
  | text :: rest => ⟨number,text⟩ :: numberFrom (number + 1) rest

namespace NumberedLine
variable (l : NumberedLine)

def tokens : List (List Char) := Text.tokens l.text

def endsData : Bool := l.tokens.head? == some ['%']

def isPassedOver : Bool :=
  match l.tokens.head? with
  | none => true
  | some first => first == ['p'] || first.head? == some 'c'

def opens : Bool := l.tokens.head?.any fun first => (Text.Numeral.integer? first).any (· != 0)

def closes : Bool := l.tokens.getLast? == some ['0']

def promised? : Option Declaration :=
  match l.tokens with
  | ['p'] :: fields => (Declaration.read? fields).map Prod.fst
  | _ => none

end NumberedLine

def content (lines : List NumberedLine) : List NumberedLine := lines.takeWhile (!·.endsData)

def dataLines (lines : List NumberedLine) : List NumberedLine :=
  (content lines).filter (!·.isPassedOver)

def clauseBlock (lines : List NumberedLine) : List NumberedLine :=
  (dataLines lines).dropWhile (!·.opens)

-- The first good problem line counts, wherever it stands before the end marker.
def declaration? (lines : List NumberedLine) : Option Declaration :=
  (content lines).findSome? NumberedLine.promised?

section Content
variable {l : NumberedLine} {rest : List NumberedLine}

theorem content_end (ends : l.endsData = true) : content (l :: rest) = [] := by
  simp [content,ends]

theorem content_more (more : l.endsData = false) : content (l :: rest) = l :: content rest := by
  simp [content,more]

theorem dataLines_passed (more : l.endsData = false) (passed : l.isPassedOver = true) :
    dataLines (l :: rest) = dataLines rest := by
  simp [dataLines,content_more more,passed]

theorem dataLines_kept (more : l.endsData = false) (kept : l.isPassedOver = false) :
    dataLines (l :: rest) = l :: dataLines rest := by
  simp [dataLines,content_more more,kept]

theorem declaration?_more (more : l.endsData = false) :
    declaration? (l :: rest) = l.promised?.or (declaration? rest) := by
  unfold declaration?
  rw [content_more more,List.findSome?_cons]
  cases l.promised? <;> rfl

end Content

structure Group where
  first : NumberedLine
  later : List NumberedLine
  deriving DecidableEq

namespace Group
variable (g : Group)

def lines : List NumberedLine := g.first :: g.later
def last : NumberedLine := g.later.getLastD g.first

def line : Nat := g.first.number

def text : List Char := Text.trim g.first.text ++ g.later.flatMap fun l => ' ' :: Text.trim l.text

def tokens : List (List Char) := g.lines.flatMap NumberedLine.tokens

def isTerminated : Bool := g.last.closes

-- The tokens that should be literals: all but a terminating zero.
def body : List (List Char) := if g.isTerminated then g.tokens.dropLast else g.tokens

def isBareZero : Bool := g.later.isEmpty && g.first.tokens == [['0']]

def toClause : Except ReadError Clause :=
  g.body.mapM fun token => (Literal.read token).mapError (.malformedLiteral g.line g.text token ·)

end Group

theorem Group.lines_last (g : Group) : ∃ front, g.lines = front ++ [g.last] := by
  obtain ⟨first,later⟩ := g
  refine ⟨(first :: later).dropLast,?_⟩
  unfold lines last
  rw [← List.getLast_eq_getLastD (List.cons_ne_nil first later),List.dropLast_append_getLast]

theorem Group.last_mem (g : Group) : g.last ∈ g.lines := by
  obtain ⟨front,lines⟩ := g.lines_last
  rw [lines]
  exact List.mem_append_right _ List.mem_cons_self

def joinFirst (l : NumberedLine) : List Group → List Group
  | [] => [⟨l,[]⟩]
  | g :: rest => ⟨l,g.lines⟩ :: rest

-- A group ends with the first line that closes it. The last one may lack such a line.
def groups : List NumberedLine → List Group
  | [] => []
  | l :: rest => if l.closes then ⟨l,[]⟩ :: groups rest else joinFirst l (groups rest)

def clauseGroups (lines : List NumberedLine) : List Group :=
  (groups (clauseBlock lines)).filter (!·.isBareZero)

section Groups

theorem isTerminated_cons (l : NumberedLine) (g : Group) :
    Group.isTerminated ⟨l,g.lines⟩ = g.isTerminated := by
  simp only [Group.isTerminated,Group.last,Group.lines,List.getLastD_cons]

theorem joinFirst_lines (l : NumberedLine) (gs : List Group) :
    (joinFirst l gs).flatMap Group.lines = l :: gs.flatMap Group.lines := by
  cases gs <;> rfl

theorem groups_lines (ls : List NumberedLine) : (groups ls).flatMap Group.lines = ls := by
  induction ls with
  | nil => rfl
  | cons l ls ih =>
    unfold groups
    split
    · rw [List.flatMap_cons,ih]
      rfl
    · rw [joinFirst_lines,ih]

theorem groups_terminated (ls : List NumberedLine) :
    (groups ls).Pairwise fun g _ => g.isTerminated = true := by
  induction ls with
  | nil => exact .nil
  | cons l ls ih =>
    unfold groups
    split
    · rename_i closing
      exact List.pairwise_cons.mpr ⟨fun _ _ => closing,ih⟩
    · cases cut : groups ls with
      | nil => exact List.pairwise_singleton _ _
      | cons g gs =>
        rw [cut] at ih
        obtain ⟨first,rest⟩ := List.pairwise_cons.mp ih
        rw [← isTerminated_cons l] at first
        exact List.pairwise_cons.mpr ⟨first,rest⟩

theorem clauseGroups_terminated (lines : List NumberedLine) :
    (clauseGroups lines).Pairwise fun g _ => g.isTerminated = true :=
  (groups_terminated _).filter _

-- Only the last group can lack a terminating zero.
theorem terminated_parts {gs : List Group} (terminated : gs.Pairwise fun g _ => g.isTerminated = true) :
    gs = gs.filter (·.isTerminated) ++ (gs.find? (!·.isTerminated)).toList := by
  induction gs with
  | nil => rfl
  | cons g gs ih =>
    obtain ⟨followed,rest⟩ := List.pairwise_cons.mp terminated
    cases ended : g.isTerminated with
    | true =>
      rw [List.filter_cons_of_pos ended,List.find?_cons_of_neg (by simp [ended]),List.cons_append,← ih rest]
    | false =>
      cases gs with
      | nil => simp [ended]
      | cons next _ =>
        rw [followed next List.mem_cons_self] at ended
        cases ended

def Group.Solid (g : Group) : Prop := ∀ l ∈ g.lines, l.tokens ≠ []

theorem kept_tokens {l : NumberedLine} (kept : l.isPassedOver = false) : l.tokens ≠ [] := by
  intro none
  simp [NumberedLine.isPassedOver,none] at kept

theorem clauseBlock_kept {l : NumberedLine} (member : l ∈ clauseBlock lines) : l ∈ lines ∧ l.isPassedOver = false := by
  have data := (List.dropWhile_suffix _).subset member
  obtain ⟨inContent,kept⟩ := List.mem_filter.mp data
  exact ⟨(List.takeWhile_prefix _).subset inContent,by simpa using kept⟩

theorem clauseGroups_block (member : g ∈ clauseGroups lines) : ∀ l ∈ g.lines, l ∈ clauseBlock lines := by
  intro l inGroup
  rw [← groups_lines (clauseBlock lines)]
  exact List.mem_flatMap.mpr ⟨g,(List.mem_filter.mp member).1,inGroup⟩

theorem clauseGroups_solid (member : g ∈ clauseGroups lines) : g.Solid := fun l inGroup =>
  kept_tokens (clauseBlock_kept (clauseGroups_block member l inGroup)).2

def Group.Open (g : Group) : Prop := ∀ l ∈ g.lines, l.closes = false

theorem groups_open {g : Group} (unfinished : g.Open) : groups g.lines = [g] := by
  obtain ⟨first,later⟩ := g
  induction later generalizing first with
  | nil => simp [Group.lines,groups,joinFirst,unfinished first List.mem_cons_self]
  | cons l later ih =>
    have rest := ih l fun m member => unfinished m (List.mem_cons_of_mem _ member)
    unfold Group.lines at rest ⊢
    rw [groups,if_neg (by simp [unfinished first List.mem_cons_self]),rest]
    rfl

-- A group with one more line, or a new one of this line alone.
def Group.grow (held : Option Group) (l : NumberedLine) : Group :=
  match held with
  | none => ⟨l,[]⟩
  | some g => ⟨g.first,g.later ++ [l]⟩

def heldLines (held : Option Group) : List NumberedLine := held.elim [] Group.lines

theorem grow_last (held : Option Group) (l : NumberedLine) : (Group.grow held l).last = l := by
  cases held <;> simp [Group.grow,Group.last]

theorem grow_lines (held : Option Group) (l : NumberedLine) :
    (Group.grow held l).lines = heldLines held ++ [l] := by
  cases held <;> rfl

theorem grow_each {p : NumberedLine → Prop} {held : Option Group} {l : NumberedLine}
    (before : ∀ g ∈ held, ∀ m ∈ g.lines, p m) (new : p l) : ∀ m ∈ (Group.grow held l).lines, p m := by
  intro m member
  rw [grow_lines] at member
  rcases List.mem_append.mp member with old | added
  · cases held with
    | none => cases old
    | some g => exact before g rfl m old
  · rwa [List.mem_singleton.mp added]

theorem grow_bareZero {held : Option Group} {l : NumberedLine} (bare : (Group.grow held l).isBareZero = true) :
    held = none ∧ l.tokens = [['0']] := by
  cases held <;> simp_all [Group.grow,Group.isBareZero]

theorem closes_bareZero {l : NumberedLine} (bare : l.tokens = [['0']]) : l.closes = true := by
  simp [NumberedLine.closes,bare]

theorem terminated_bareZero {g : Group} (bare : g.isBareZero = true) : g.isTerminated = true := by
  obtain ⟨first,later⟩ := g
  have parts : later = [] ∧ first.tokens = [['0']] := by simpa [Group.isBareZero] using bare
  obtain ⟨rfl,zero⟩ := parts
  exact closes_bareZero zero

theorem unterminated_counted {g : Group} (unfinished : g.isTerminated = false) : g.isBareZero = false := by
  by_contra bare
  rw [terminated_bareZero (by simpa using bare)] at unfinished
  cases unfinished

theorem open_unterminated {g : Group} (unfinished : g.Open) : g.isTerminated = false :=
  unfinished _ g.last_mem

theorem groups_close_later {first l : NumberedLine} {later : List NumberedLine}
    (unfinished : ∀ m ∈ first :: later, m.closes = false) (closing : l.closes = true)
    (rest : List NumberedLine) :
    groups (first :: (later ++ l :: rest)) = ⟨first,later ++ [l]⟩ :: groups rest := by
  induction later generalizing first with
  | nil => simp [groups,joinFirst,unfinished first List.mem_cons_self,closing,Group.lines]
  | cons m later ih =>
    obtain ⟨more,unfinished⟩ := List.forall_mem_cons.mp unfinished
    have tail := ih unfinished
    rw [groups,if_neg (by simp [more]),List.cons_append,tail]
    rfl

theorem groups_close {held : Option Group} {l : NumberedLine} (unfinished : ∀ g ∈ held, g.Open)
    (closing : l.closes = true) (rest : List NumberedLine) :
    groups (heldLines held ++ l :: rest) = Group.grow held l :: groups rest := by
  cases held with
  | none => exact if_pos closing
  | some g => exact groups_close_later (unfinished g rfl) closing rest

end Groups
end CnfSearch.Dimacs
