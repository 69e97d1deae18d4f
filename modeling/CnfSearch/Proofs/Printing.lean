import CnfSearch.Display
import CnfSearch.Proofs.NamedValues
import CnfSearch.Proofs.Numerals

-- What is printed says which formula and which assignment it is the text of.
namespace CnfSearch

namespace Text

def NoDigitAhead (text : List Char) : Prop := ∀ c, text.head? = some c → c.isDigit = false

-- Where the text of a value ends can be told from what comes after it, if that does not begin
-- with a digit. So the values can be read off one after the other.
def Delimits {α : Type} (render : α → List Char) : Prop :=
  ∀ a b s t, NoDigitAhead s → NoDigitAhead t → render a ++ s = render b ++ t → a = b ∧ s = t

theorem noDigitAhead_nil : NoDigitAhead [] := by simp [NoDigitAhead]

theorem noDigitAhead_cons {c : Char} (noDigit : c.isDigit = false) (text : List Char) :
    NoDigitAhead (c :: text) := by
  intro d first
  cases first
  exact noDigit

variable {α : Type} {render : α → List Char} {s t sep : List Char}

theorem Delimits.after (delimits : Delimits render) (before : List Char) :
    Delimits fun a => before ++ render a := by
  intro a b s t aheadS aheadT same
  rw [List.append_assoc,List.append_assoc] at same
  exact delimits a b s t aheadS aheadT (List.append_cancel_left same)

theorem Delimits.pair {β : Type} {more : β → List Char} (first : Delimits render) (second : Delimits more)
    (apart : ∀ b s, NoDigitAhead (more b ++ s)) : Delimits fun x : α × β => render x.1 ++ more x.2 := by
  intro x y s t aheadS aheadT same
  rw [List.append_assoc,List.append_assoc] at same
  obtain ⟨left,rest⟩ := first x.1 y.1 _ _ (apart x.2 s) (apart y.2 t) same
  obtain ⟨right,ends⟩ := second x.2 y.2 s t aheadS aheadT rest
  exact ⟨Prod.ext left right,ends⟩

section Sequence
variable {c : Char} (starts : ∀ a, (render a).head? = some c) (noDigit : c.isDigit = false)
include starts noDigit

theorem noDigitAhead_flatMap (ahead : NoDigitAhead s) (xs : List α) : NoDigitAhead (xs.flatMap render ++ s) := by
  cases xs with
  | nil => exact ahead
  | cons x xs =>
    intro d first
    simp only [List.flatMap_cons,List.append_assoc,List.head?_append,starts x,Option.some_or] at first
    cases first
    exact noDigit

theorem Delimits.flatMap (delimits : Delimits render) (aheadS : NoDigitAhead s) (aheadT : NoDigitAhead t)
    (otherS : s.head? ≠ some c) (otherT : t.head? ≠ some c) {xs ys : List α}
    (same : xs.flatMap render ++ s = ys.flatMap render ++ t) : xs = ys ∧ s = t := by
  induction xs generalizing ys with
  | nil =>
    cases ys with
    | nil => exact ⟨rfl,same⟩
    | cons y ys =>
      apply absurd _ otherS
      change s = _ at same
      simp [same,starts y]
  | cons x xs ih =>
    cases ys with
    | nil =>
      apply absurd _ otherT
      change _ = t at same
      simp [← same,starts x]
    | cons y ys =>
      simp only [List.flatMap_cons,List.append_assoc] at same
      obtain ⟨rfl,rest⟩ := delimits x y _ _ (noDigitAhead_flatMap starts noDigit aheadS xs)
        (noDigitAhead_flatMap starts noDigit aheadT ys) same
      obtain ⟨rfl,ends⟩ := ih rest
      exact ⟨rfl,ends⟩

end Sequence

theorem intercalate_cons (sep first : List Char) (rest : List (List Char)) :
    sep.intercalate (first :: rest) = first ++ rest.flatMap (sep ++ ·) := by
  induction rest generalizing first with
  | nil => simp [List.intercalate]
  | cons next rest ih => rw [List.intercalate_cons_cons,ih,List.flatMap_cons,List.append_assoc,List.append_assoc]

def enclosed (sep : List Char) (render : α → List Char) (xs : List α) : List Char :=
  sep.intercalate (xs.map render) ++ [')']

theorem enclosed_cons (x : α) (xs : List α) :
    enclosed sep render (x :: xs) ++ s = render x ++ (xs.flatMap (sep ++ render ·) ++ ')' :: s) := by
  simp [enclosed,intercalate_cons,List.flatMap_map]

-- No text of a value begins with the bracket.
theorem Delimits.enclosed (delimits : Delimits render) (starts : ∀ a, ∃ c, (render a).head? = some c ∧ c ≠ ')') :
    Delimits (Text.enclosed (' ' :: sep) render) := by
  have apart : ∀ (x : α) (xs : List α) (s t : List Char),
      Text.enclosed (' ' :: sep) render (x :: xs) ++ s ≠ ')' :: t := by
    intro x xs s t same
    obtain ⟨c,first,other⟩ := starts x
    have heads := congrArg List.head? same
    rw [enclosed_cons,List.head?_append,first] at heads
    exact other (Option.some.inj heads)
  have close : ∀ s, NoDigitAhead (')' :: s) := noDigitAhead_cons rfl
  have spaced : ∀ a, (' ' :: sep ++ render a).head? = some ' ' := fun _ => rfl
  intro xs ys s t _ _ same
  cases xs with
  | nil =>
    cases ys with
    | nil => exact ⟨rfl,List.append_cancel_left same⟩
    | cons y ys => exact absurd same.symm (apart y ys t s)
  | cons x xs =>
    cases ys with
    | nil => exact absurd same (apart x xs s t)
    | cons y ys =>
      rw [enclosed_cons,enclosed_cons] at same
      obtain ⟨rfl,rest⟩ := delimits x y _ _ (noDigitAhead_flatMap spaced rfl (close s) xs)
        (noDigitAhead_flatMap spaced rfl (close t) ys) same
      obtain ⟨rfl,ends⟩ := (delimits.after (' ' :: sep)).flatMap spaced rfl (close s) (close t) (by simp) (by simp) rest
      exact ⟨rfl,(List.cons.inj ends).2⟩

theorem takeWhile_ofNat (n : Nat) {s : List Char} (ahead : NoDigitAhead s) :
    (Numeral.ofNat n ++ s).takeWhile Char.isDigit = Numeral.ofNat n := by
  have stops : s.takeWhile Char.isDigit = [] := by
    cases s with
    | nil => rfl
    | cons c s => simp [ahead c rfl]
  rw [List.takeWhile_append_of_pos Numeral.ofNat_digits,stops,List.append_nil]

theorem ofNat_delimits : Delimits Numeral.ofNat := by
  intro n m s t aheadS aheadT same
  have digits : Numeral.ofNat n = Numeral.ofNat m := by
    rw [← takeWhile_ofNat n aheadS,same,takeWhile_ofNat m aheadT]
  have values : Nat.ofDigitChars 10 (Numeral.ofNat n) 0 = Nat.ofDigitChars 10 (Numeral.ofNat m) 0 := by rw [digits]
  simp only [Numeral.ofNat,Nat.ofDigitChars_ten_toDigits] at values
  subst values
  exact ⟨rfl,List.append_cancel_left same⟩

theorem feed_not_mem_ofNat (n : Nat) : '\n' ∉ Numeral.ofNat n := fun member => by
  have digit := Numeral.ofNat_digits _ member
  cases digit

theorem feed_not_mem_intercalate {texts : List (List Char)} (noSep : '\n' ∉ sep)
    (none : ∀ text ∈ texts, '\n' ∉ text) : '\n' ∉ sep.intercalate texts := by
  cases texts with
  | nil => simp [List.intercalate]
  | cons first rest =>
    obtain ⟨noFirst,noRest⟩ := List.forall_mem_cons.mp none
    simp only [intercalate_cons,List.mem_append,List.mem_flatMap,not_or,not_exists,not_and]
    exact ⟨noFirst,fun text member => ⟨noSep,noRest text member⟩⟩

end Text

open Text

theorem Variable.render_delimits : Delimits Variable.render := by
  intro x y s t aheadS aheadT same
  obtain ⟨ids,rest⟩ := ofNat_delimits x.id y.id s t aheadS aheadT (List.cons.inj same).2
  exact ⟨Variable.eq_of_id ids,rest⟩

theorem Literal.render_head (l : Literal) : l.render.head? = some (if l.positive then 'x' else '¬') := by
  unfold render
  split <;> rfl

theorem Literal.render_delimits : Delimits Literal.render := by
  intro l m s t aheadS aheadT same
  have heads := congrArg List.head? same
  simp only [List.head?_append,Literal.render_head,Option.some_or,Option.some.injEq] at heads
  have signs : l.positive = m.positive := by
    cases signL : l.positive <;> cases signM : m.positive <;> simp_all
  have names : l.var.render ++ s = m.var.render ++ t := by
    unfold Literal.render at same
    rw [signs] at same
    split at same
    · exact same
    · exact (List.cons.inj same).2
  obtain ⟨vars,rest⟩ := Variable.render_delimits _ _ s t aheadS aheadT names
  exact ⟨congrArg₂ Literal.mk vars signs,rest⟩

theorem Clause.render_delimits : Delimits Clause.render := by
  apply (Literal.render_delimits.enclosed ?_).after ['(']
  intro l
  refine ⟨_,l.render_head,?_⟩
  split <;> decide

theorem Formula.render_exact (f : Formula) : f.render = "CNF with ".toList ++
    (Numeral.ofNat f.numVariables ++ (" variables (".toList ++ enclosed [' ','∧',' '] Clause.render f.clauses)) := by
  unfold Formula.render enclosed
  rw [List.append_assoc,List.append_assoc,List.append_assoc]

theorem Formula.render_delimits : Delimits Formula.render := by
  have listed : Delimits fun clauses => " variables (".toList ++ enclosed [' ','∧',' '] Clause.render clauses := by
    apply (Clause.render_delimits.enclosed ?_).after
    intro c
    exact ⟨'(',rfl,by decide⟩
  have counted := (ofNat_delimits.pair listed fun _ _ => noDigitAhead_cons rfl _).after "CNF with ".toList
  intro f g s t aheadS aheadT same
  rw [Formula.render_exact,Formula.render_exact] at same
  obtain ⟨parts,rest⟩ := counted (f.numVariables,f.clauses) (g.numVariables,g.clauses) s t aheadS aheadT same
  exact ⟨congrArg Formula.mk (Prod.ext_iff.mp parts).2,rest⟩

theorem Formula.render_exact_clauses {f g : Formula} : f.render = g.render ↔ f.clauses = g.clauses := by
  constructor
  · intro same
    rw [← List.append_nil f.render,← List.append_nil g.render] at same
    rw [(Formula.render_delimits f g _ _ noDigitAhead_nil noDigitAhead_nil same).1]
  · intro same
    exact congrArg (fun clauses => Formula.render ⟨clauses⟩) same

def truthName (value : Bool) : List Char := if value then "true".toList else "false".toList

theorem truthName_delimits : Delimits truthName := by
  intro v w s t _ _ same
  cases v <;> cases w
  · exact ⟨rfl,List.append_cancel_left same⟩
  · cases (List.cons.inj same).1
  · cases (List.cons.inj same).1
  · exact ⟨rfl,List.append_cancel_left same⟩

def Model.entry (binding : Variable × Bool) : List Char :=
  "  ".toList ++ (binding.1.render ++ (": ".toList ++ truthName binding.2))

theorem Model.entry_delimits : Delimits Model.entry :=
  (Variable.render_delimits.pair (truthName_delimits.after ": ".toList) fun _ _ => noDigitAhead_cons rfl _).after "  ".toList

namespace Model
variable (m : Model)

theorem render_exact : m.render = "Model for ".toList ++ (m.formula.render ++
    ('\n' :: "Assignment:".toList ++ m.bindings.flatMap (['\n'] ++ entry ·))) := by
  unfold render
  rw [List.append_assoc,List.append_assoc]
  rfl

theorem bindings_variables : m.bindings.map Prod.fst = m.formula.support.list :=
  List.map_fst_zip (Nat.le_of_eq m.aligned)

theorem bindings_values : m.bindings.map Prod.snd = m.assignment :=
  List.map_snd_zip (Nat.le_of_eq m.aligned.symm)

theorem mem_bindings {x : Variable} {value : Bool} :
    (x,value) ∈ m.bindings ↔ m.formula.support.valueOf? m.assignment x = some value := by
  rw [List.mem_iff_getElem?,Support.valueOf?,Option.bind_eq_some_iff]
  apply exists_congr
  intro i
  rw [bindings,List.getElem?_zip_eq_some,Support.position?_exact]

theorem render_exact_parts {m n : Model} : m.render = n.render ↔
    m.formula.clauses = n.formula.clauses ∧ m.assignment = n.assignment := by
  constructor
  · intro same
    rw [render_exact,render_exact] at same
    have ahead : ∀ text, NoDigitAhead ('\n' :: "Assignment:".toList ++ text) := fun _ => noDigitAhead_cons rfl _
    obtain ⟨formulas,rest⟩ := Formula.render_delimits _ _ _ _ (ahead _) (ahead _) (List.append_cancel_left same)
    have entries := List.append_cancel_left rest
    rw [← List.append_nil (m.bindings.flatMap _),← List.append_nil (n.bindings.flatMap _)] at entries
    obtain ⟨bindings,_⟩ := (entry_delimits.after ['\n']).flatMap (fun _ => rfl) rfl
      noDigitAhead_nil noDigitAhead_nil (by simp) (by simp) entries
    rw [← m.bindings_values,← n.bindings_values,bindings,formulas]
    exact ⟨rfl,rfl⟩
  · rintro ⟨clauses,values⟩
    obtain ⟨⟨_⟩,_,_⟩ := m
    cases clauses
    cases values
    rfl

end Model

section Lines

theorem feed_not_mem_variable (x : Variable) : '\n' ∉ x.render := by
  simp [Variable.render,feed_not_mem_ofNat]

theorem feed_not_mem_literal (l : Literal) : '\n' ∉ l.render := by
  unfold Literal.render
  split <;> simp [feed_not_mem_variable]

theorem feed_not_mem_clause (c : Clause) : '\n' ∉ Clause.render c := by
  have listed := @feed_not_mem_intercalate [' ','∨',' '] (c.map Literal.render) (by decide)
    (by simpa using fun l _ => feed_not_mem_literal l)
  simp [Clause.render,listed]

theorem feed_not_mem_formula (f : Formula) : '\n' ∉ f.render := by
  have listed := @feed_not_mem_intercalate [' ','∧',' '] (f.clauses.map Clause.render) (by decide)
    (by simpa using fun c _ => feed_not_mem_clause c)
  rw [Formula.render_exact,enclosed]
  simp [listed,feed_not_mem_ofNat]

theorem feed_not_mem_entry (binding : Variable × Bool) : '\n' ∉ Model.entry binding := by
  obtain ⟨x,value⟩ := binding
  cases value <;> simp [Model.entry,truthName,feed_not_mem_variable]

theorem Model.render_lines (m : Model) : m.render.splitOn '\n' =
    ("Model for ".toList ++ m.formula.render) :: "Assignment:".toList :: m.bindings.map Model.entry := by
  have joined : m.render = ['\n'].intercalate
      (("Model for ".toList ++ m.formula.render) :: "Assignment:".toList :: m.bindings.map Model.entry) := by
    rw [Model.render_exact,intercalate_cons,List.flatMap_cons,List.flatMap_map]
    simp
  rw [joined]
  apply List.splitOn_intercalate '\n' _ (List.cons_ne_nil _ _)
  simp only [List.forall_mem_cons,List.forall_mem_map]
  exact ⟨by simp [feed_not_mem_formula],by simp,fun binding _ => feed_not_mem_entry binding⟩

end Lines

theorem display_identifies :
    (∀ f g : Formula, f.display = g.display ↔ f.clauses = g.clauses) ∧
    (∀ m n : Model, m.display = n.display ↔
      m.formula.clauses = n.formula.clauses ∧ m.assignment = n.assignment) ∧
    ∀ m : Model, ∃ listed : List (Variable × Bool),
      m.display.toList.splitOn '\n' =
        ("Model for ".toList ++ m.formula.render) :: "Assignment:".toList :: listed.map Model.entry ∧
      (listed.map Prod.fst).Pairwise (·.id < ·.id) ∧
      (∀ x, x ∈ listed.map Prod.fst ↔ ∃ c ∈ m.formula.clauses, ∃ l ∈ c, l.var = x) ∧
      ∀ x value, (x,value) ∈ listed ↔ m.formula.support.valueOf? m.assignment x = some value := by
  refine ⟨?_,?_,?_⟩
  · intro f g
    unfold Formula.display
    rw [String.ofList_inj,Formula.render_exact_clauses]
  · intro m n
    unfold Model.display
    rw [String.ofList_inj,Model.render_exact_parts]
  · intro m
    refine ⟨m.bindings,?_,?_,?_,fun x value => m.mem_bindings⟩
    · rw [Model.display,String.toList_ofList,m.render_lines]
    · rw [m.bindings_variables]
      exact m.formula.support.ascending
    · intro x
      rw [m.bindings_variables]
      exact Support.mem_ofClauses

-- No clause, one clause without literals and two of them are three texts.
example : Formula.display ⟨[]⟩ = "CNF with 0 variables ()" ∧
    Formula.display ⟨[[]]⟩ = "CNF with 0 variables (())" ∧
    Formula.display ⟨[[],[]]⟩ = "CNF with 0 variables (() ∧ ())" := by decide +kernel

end CnfSearch
