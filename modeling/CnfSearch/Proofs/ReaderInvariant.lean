import CnfSearch.Proofs.Rows
import CnfSearch.Proofs.TextVerdict

-- What is true of a reader between any two lines.
namespace CnfSearch.Dimacs
open Traversal

theorem read_data_trim {text data : List Char} (isData : Line.read text = .data data) :
    data = Text.trim text ∧ Text.tokens data ≠ [] := by
  unfold Line.read at isData
  dsimp only at isData
  split at isData
  case h_1 => cases isData
  case h_2 => cases isData
  case h_3 => split at isData <;> cases isData
  case h_4 => cases isData
  case h_5 =>
    rename_i blank _ _ _
    cases isData
    exact ⟨rfl,blank⟩

namespace Fragment

theorem extend_tokens (f : Fragment) (data : List Char) :
    Text.tokens (f.extend data).text = Text.tokens f.text ++ Text.tokens data := by
  unfold extend
  cases empty : f.text with
  | nil => rfl
  | cons c text => exact Text.tokens_append_blank (by decide) _ _

theorem extend_solid {f : Fragment} (solid : Text.tokens f.text ≠ []) (data : List Char) :
    f.extend data = ⟨f.line,f.text ++ ' ' :: data⟩ := by
  unfold extend
  cases start : f.text with
  | nil => rw [start] at solid; exact absurd rfl solid
  | cons c text => rfl

theorem toClause_nonempty {f : Fragment} (read : f.toClause = .ok c) (body : f.body ≠ []) : c ≠ [] := by
  intro none
  subst none
  exact body (List.forall₂_nil_right_iff.mp (mapM_ok_exact.mp read))

-- A pending fragment is the text of one or more data lines and still waits for its zero.
structure Sound (fed : List NumberedLine) (f : Fragment) : Prop where
  solid : Text.tokens f.text ≠ []
  unfinished : (Text.tokens f.text).getLast? ≠ some ['0']
  front : ∀ c, f.text.head? = some c → Text.isBlank c = false
  back : ∀ c, f.text.getLast? = some c → Text.isBlank c = false
  noFeed : '\n' ∉ f.text
  origin : ∃ l ∈ fed, l.number = f.line ∧ ∃ data, Line.read l.text = .data data

end Fragment

namespace Reader

-- A fragment with its zero becomes a clause at once.
inductive Step (r : Reader) (l : NumberedLine) : Progress → Prop where
  | passed : Step r l ⟨r,false⟩
  | declared (promise : Declaration) : Step r l ⟨r.withDeclared (r.declared.or (some promise)),false⟩
  | ended : Step r l ⟨r,true⟩
  | held {data : List Char} {f : Fragment} (isData : Line.read l.text = .data data)
      (grown : f = (r.pending.getD (.start l.number)).extend data) (unfinished : f.isTerminated = false) :
      Step r l ⟨{ r with pending := some f,inBlock := true },false⟩
  | stored {data : List Char} {f : Fragment} {c : Clause} (isData : Line.read l.text = .data data)
      (grown : f = (r.pending.getD (.start l.number)).extend data) (counted : r.pending = none → data ≠ ['0'])
      (read : f.toClause = .ok c) :
      Step r l ⟨{ r with clauses := r.clauses ++ [c],pending := none,inBlock := true },false⟩

theorem extend_step {r after : Reader} {l : NumberedLine} (isData : Line.read l.text = .data data)
    (counted : r.pending = none → data ≠ ['0'])
    (extended : ({ r with inBlock := true } : Reader).extend (r.pending.getD (.start l.number)) data = .ok after) :
    Step r l ⟨after,false⟩ := by
  unfold extend at extended
  dsimp only at extended
  split at extended
  · unfold store at extended
    cases read : ((r.pending.getD (.start l.number)).extend data).toClause with
    | error cause => rw [read] at extended; cases extended
    | ok c =>
      rw [read] at extended
      cases extended
      exact .stored isData rfl counted read
  · rename_i more
    cases extended
    exact .held isData rfl (by simpa using more)

theorem readData_step {r after : Reader} {l : NumberedLine} (isData : Line.read l.text = .data data)
    (read : r.readData l.number data = .ok after) : Step r l ⟨after,false⟩ := by
  unfold readData at read
  split at read
  · cases read
    exact .passed
  · rename_i begun
    cases pending : r.pending with
    | some f =>
      simp only [pending] at read
      exact extend_step isData (by simp [pending]) (by simpa [pending] using read)
    | none =>
      simp only [pending] at read
      split at read
      · rename_i bare
        -- A lone zero opens no block, so the block had begun before it.
        have inBlock : r.inBlock = true := by
          subst bare
          have closed : opensBlock ['0'] = false := by decide
          simpa [closed] using begun
        cases read
        have same : ({ r with pending := none,inBlock := true } : Reader) = r := by rw [← pending,← inBlock]
        rw [same]
        exact .passed
      · rename_i counted
        exact extend_step isData (fun _ => counted) (by simpa [pending] using read)

theorem readLine_step {r : Reader} {l : NumberedLine} {p : Progress} (read : r.readLine l.number l.text = .ok p) :
    Step r l p := by
  unfold readLine at read
  cases kind : Line.read l.text with
  | blank => rw [kind] at read; cases read; exact .passed
  | comment => rw [kind] at read; cases read; exact .passed
  | malformedProblem text => rw [kind] at read; cases read; exact .passed
  | problem promise trailing =>
    rw [kind] at read
    cases read
    rw [declare_or]
    exact .declared promise
  | endMarker => rw [kind] at read; cases read; exact .ended
  | data data =>
    rw [kind] at read
    dsimp only at read
    cases fed : r.readData l.number data with
    | error cause => rw [fed] at read; cases read
    | ok after =>
      rw [fed] at read
      cases read
      exact readData_step kind fed

-- What no line undoes, in whatever state the reader is.
structure Kept (before after : Reader) : Prop where
  clauses : ∃ more, after.clauses = before.clauses ++ more ∧ more.length ≤ 1
  inBlock : before.inBlock = true → after.inBlock = true
  declared : ∀ d, before.declared = some d → after.declared = some d

theorem Step.kept (step : Step r l p) : Kept r p.reader := by
  cases step with
  | passed => exact ⟨⟨[],by simp⟩,id,fun _ => id⟩
  | declared promise =>
    refine ⟨⟨[],by simp [withDeclared]⟩,id,?_⟩
    intro d first
    simp [withDeclared,first]
  | ended => exact ⟨⟨[],by simp⟩,id,fun _ => id⟩
  | held => exact ⟨⟨[],by simp⟩,fun _ => rfl,fun _ => id⟩
  | stored => exact ⟨⟨[_],rfl,Nat.le_refl 1⟩,fun _ => rfl,fun _ => id⟩

theorem Step.unchanged (step : Step r l p) (ended : p.ended = true) : p.reader = r := by
  cases step with
  | ended => rfl
  | passed => cases ended
  | declared => cases ended
  | held => cases ended
  | stored => cases ended

structure Sound (fed : List NumberedLine) (r : Reader) : Prop where
  pending : ∀ f, r.pending = some f → r.inBlock = true ∧ f.Sound fed
  begun : r.clauses ≠ [] → r.inBlock = true
  nonempty : ∀ c ∈ r.clauses, c ≠ []

-- Lines may also come after one that ends the data.
inductive Reached : List NumberedLine → Reader → Prop where
  | start : Reached [] .start
  | fed {ls : List NumberedLine} {r : Reader} {l : NumberedLine} {p : Progress} (before : Reached ls r)
      (noFeed : '\n' ∉ l.text) (read : r.readLine l.number l.text = .ok p) : Reached (ls ++ [l]) p.reader

section Steps
variable {fed : List NumberedLine} {r : Reader} {l : NumberedLine} {p : Progress} {held : Option Fragment}
  {data : List Char}

theorem start_sound : Sound [] .start := ⟨by simp [start],by simp [start],by simp [start]⟩

theorem fragment_later {f : Fragment} (sound : f.Sound fed) (l : NumberedLine) : f.Sound (fed ++ [l]) := by
  obtain ⟨solid,unfinished,front,back,noFeed,m,member,number⟩ := sound
  exact ⟨solid,unfinished,front,back,noFeed,m,List.mem_append_left _ member,number⟩

theorem Sound.later (sound : Sound fed r) (l : NumberedLine) : Sound (fed ++ [l]) r :=
  ⟨fun f held => ⟨(sound.pending f held).1,fragment_later (sound.pending f held).2 l⟩,sound.begun,sound.nonempty⟩

theorem grown_sound (before : ∀ f ∈ held, f.Sound fed) (noFeed : '\n' ∉ l.text)
    (isData : Line.read l.text = .data data)
    (unfinished : ((held.getD (.start l.number)).extend data).isTerminated = false) :
    ((held.getD (.start l.number)).extend data).Sound (fed ++ [l]) := by
  obtain ⟨trimmed,solid⟩ := read_data_trim isData
  have noFeedData : '\n' ∉ data := by
    rw [trimmed]
    exact fun member => noFeed (Text.trim_subset _ member)
  have back : ∀ c, data.getLast? = some c → Text.isBlank c = false := by
    rw [trimmed]
    exact fun c => Text.trim_back
  have more : (Text.tokens ((held.getD (.start l.number)).extend data).text).getLast? ≠ some ['0'] := by
    simpa [Fragment.isTerminated] using unfinished
  cases held with
  | none =>
    have front : ∀ c, data.head? = some c → Text.isBlank c = false := by
      rw [trimmed]
      exact fun c => Text.trim_front
    exact ⟨solid,more,front,back,noFeedData,l,by simp,rfl,data,isData⟩
  | some f =>
    obtain ⟨solidBefore,_,front,_,noFeedBefore,m,member,number⟩ := before f rfl
    have grown := Fragment.extend_solid solidBefore data
    have filled : data ≠ [] := by
      intro none
      subst none
      exact solid rfl
    have start : f.text ≠ [] := by
      intro none
      rw [none] at solidBefore
      exact solidBefore rfl
    refine ⟨?_,more,?_,?_,?_,m,List.mem_append_left _ member,?_⟩
    · simp [Fragment.extend_tokens,solid]
    · intro c first
      apply front c
      simpa [grown,List.head?_append_of_ne_nil _ start] using first
    · intro c last
      apply back c
      rw [Option.getD_some,grown,List.append_cons,List.getLast?_append_of_ne_nil _ filled] at last
      exact last
    · simp [grown,noFeedBefore,noFeedData]
    · simpa [grown] using number

-- The zero is not the only token: either an earlier line left one, or the line has another.
theorem grown_body (before : ∀ f ∈ held, f.Sound fed) (isData : Line.read l.text = .data data)
    (counted : held = none → data ≠ ['0']) : ((held.getD (.start l.number)).extend data).body ≠ [] := by
  obtain ⟨trimmed,solid⟩ := read_data_trim isData
  intro none
  rw [Fragment.body_nil_exact,Fragment.extend_tokens] at none
  rcases none with nothing | zero
  · exact solid (List.append_eq_nil_iff.mp nothing).2
  · cases held with
    | some f =>
      have earlier := (before f rfl).solid
      simp [List.append_eq_singleton_iff,earlier,solid] at zero
    | none =>
      have alone : Text.tokens l.text = [['0']] := by
        rw [← Text.tokens_trim,← trimmed]
        exact zero
      apply counted rfl
      rw [trimmed,Text.trim_single alone]

theorem Step.sound (step : Step r l p) (sound : Sound fed r) (noFeed : '\n' ∉ l.text) :
    Sound (fed ++ [l]) p.reader := by
  have before : ∀ f ∈ r.pending, f.Sound fed := fun f held => (sound.pending f held).2
  cases step with
  | passed => exact sound.later l
  | declared promise => exact ⟨(sound.later l).pending,sound.begun,sound.nonempty⟩
  | ended => exact sound.later l
  | held isData grown unfinished =>
    subst grown
    refine ⟨?_,fun _ => rfl,sound.nonempty⟩
    intro f same
    cases same
    exact ⟨rfl,grown_sound before noFeed isData unfinished⟩
  | stored isData grown counted read =>
    subst grown
    refine ⟨by simp,fun _ => rfl,?_⟩
    intro c member
    rcases List.mem_append.mp member with old | new
    · exact sound.nonempty c old
    · rw [List.mem_singleton.mp new]
      exact Fragment.toClause_nonempty read (grown_body before isData counted)

theorem Reached.sound (reached : Reached fed r) : Sound fed r := by
  induction reached with
  | start => exact start_sound
  | fed _ noFeed read ih => exact (readLine_step read).sound ih noFeed

end Steps

theorem reader_invariant :
    (∀ fed r, Reached fed r → Sound fed r) ∧
    (∀ (r : Reader) (number : Nat) (text : List Char) (p : Progress), r.readLine number text = .ok p →
      Kept r p.reader ∧ (p.ended = true → p.reader = r)) ∧
    ∀ text p, parse text = .ok p →
      (∀ c ∈ p.formula.clauses, c ≠ []) ∧ (p.formula.numVariables = 0 ↔ p.formula.clauses = []) := by
  refine ⟨fun fed r reached => reached.sound,?_,?_⟩
  · intro r number text p read
    have step : Step r ⟨number,text⟩ p := readLine_step read
    exact ⟨step.kept,step.unchanged⟩
  · intro text p parsed
    have nonempty := parse_nonempty parsed
    exact ⟨nonempty,Formula.numVariables_zero nonempty⟩

end Reader
end CnfSearch.Dimacs
