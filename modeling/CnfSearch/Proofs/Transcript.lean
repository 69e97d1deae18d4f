import CnfSearch.Proofs.FirstWitness

-- What a search tells on its way, and what can be learned from it.
namespace CnfSearch.Formula
open Assignment

-- None follows an attempt that satisfies.
def attempts (f : Formula) (index : Nat) : Nat → List Bool
  | 0 => []
  | count + 1 => if f.satisfiedAt index then [true] else false :: f.attempts (index + 1) count

variable (f : Formula)

def closing : Option Nat → Event
  | some index => .found index
  | none => .exhausted

def loopEvents (index count : Nat) : List Event :=
  (f.attempts index count).mapIdx (fun i satisfied => .tried (index + i) satisfied) ++
    [closing ((List.range' index count).find? f.satisfiedAt)]

theorem loopEvents_none (index : Nat) : f.loopEvents index 0 = [.exhausted] := rfl

theorem loopEvents_satisfied {index : Nat} (satisfied : f.satisfiedAt index = true) (count : Nat) :
    f.loopEvents index (count + 1) = [.tried index true,.found index] := by
  simp [loopEvents,attempts,List.range'_succ,satisfied,closing]

theorem loopEvents_refuted {index : Nat} (refuted : f.satisfiedAt index = false) (count : Nat) :
    f.loopEvents index (count + 1) = .tried index false :: f.loopEvents (index + 1) count := by
  simp [loopEvents,attempts,List.range'_succ,refuted,Nat.add_assoc,Nat.add_comm 1]

theorem attempts_at {index i : Nat} {satisfied : Bool} (tried : (f.attempts index count)[i]? = some satisfied) :
    satisfied = f.satisfiedAt (index + i) := by
  induction count generalizing index i with
  | zero => simp [attempts] at tried
  | succ count ih =>
    cases first : f.satisfiedAt index with
    | true => cases i <;> simp_all [attempts]
    | false =>
      cases i with
      | zero => simp_all [attempts]
      | succ i =>
        have later : satisfied = f.satisfiedAt (index + 1 + i) := ih (by simpa [attempts,first] using tried)
        rw [later,Nat.add_assoc,Nat.add_comm 1]

theorem attempts_found {index count k : Nat} (found : (List.range' index count).find? f.satisfiedAt = some k) :
    index ≤ k ∧ f.attempts index count = List.replicate (k - index) false ++ [true] := by
  induction count generalizing index with
  | zero => simp at found
  | succ count ih =>
    rw [List.range'_succ,List.find?_cons] at found
    cases first : f.satisfiedAt index with
    | true =>
      rw [first] at found
      cases found
      simp [attempts,first]
    | false =>
      rw [first] at found
      obtain ⟨later,rest⟩ := ih found
      have more : k - index = k - (index + 1) + 1 := by omega
      refine ⟨Nat.le_of_succ_le later,?_⟩
      simp [attempts,first,rest,more,List.replicate_succ]

theorem attempts_exhausted {index count : Nat} (none : (List.range' index count).find? f.satisfiedAt = none) :
    f.attempts index count = List.replicate count false := by
  induction count generalizing index with
  | zero => rfl
  | succ count ih =>
    rw [List.range'_succ,List.find?_cons] at none
    cases first : f.satisfiedAt index with
    | true =>
      rw [first] at none
      cases none
    | false =>
      rw [first] at none
      simp [attempts,first,ih none,List.replicate_succ]

-- Induction is on how many numbers are left.
theorem searchFrom_events {c : Cursor} (placed : c.Placed) (width : c.width = f.numVariables) (journal : Journal) :
    ∃ after, f.searchFrom f.support c journal =
        .ok (((List.range' c.index (c.stop - c.index)).find? f.satisfiedAt).map (numbered f.numVariables),after) ∧
      after.events = journal.events ++ (f.loopEvents c.index (c.stop - c.index)).filter journal.wanted := by
  generalize left : c.stop - c.index = count
  induction count generalizing c journal with
  | zero =>
    have finished : c.index = c.stop := Nat.le_antisymm placed.within (Nat.sub_eq_zero_iff_le.mp left)
    refine ⟨_,f.searchFrom_finished finished journal,?_⟩
    rw [Journal.note_events,loopEvents_none]
  | succ count ih =>
    have more : c.index < c.stop := by omega
    rw [f.searchFrom_more placed width more,List.range'_succ,List.find?_cons]
    cases satisfied : f.satisfiedAt c.index with
    | true =>
      refine ⟨_,rfl,?_⟩
      rw [Journal.note_events,Journal.note_events,Journal.note_wanted,f.loopEvents_satisfied satisfied,
        List.append_assoc,← List.filter_append]
      rfl
    | false =>
      have left : c.advanced.stop - c.advanced.index = count := by
        simp only [Cursor.advanced]
        omega
      obtain ⟨after,searched,told⟩ := ih (placed.advanced more) width (journal.note (.tried c.index false)) left
      refine ⟨after,searched,?_⟩
      rw [told,Journal.note_events,Journal.note_wanted,f.loopEvents_refuted satisfied,List.append_assoc,
        ← List.filter_append]
      rfl

theorem firstIndex?_from : f.firstIndex? = (List.range' 0 (2 ^ f.numVariables)).find? f.satisfiedAt := by
  rw [firstIndex?,List.range_eq_range']

def opening : Event := .searching (2 ^ f.numVariables) f.numVariables f.numClauses f.numLiterals

def transcript : List Event := f.opening :: f.loopEvents 0 (2 ^ f.numVariables)

theorem search_events (narrow : f.numVariables ≤ maxWidth) (wanted : Interest) :
    f.search wanted = .ok ⟨f.firstIndex?.map f.modelAt,f.transcript.filter wanted⟩ := by
  obtain ⟨after,looped,told⟩ :=
    f.searchFrom_events (c := f.firstCursor) (Cursor.start_placed narrow) rfl (f.openJournal wanted)
  have looped : f.searchFrom f.support f.firstCursor (f.openJournal wanted) =
      .ok (f.firstIndex?.map (numbered f.numVariables),after) := by
    rw [firstIndex?_from]
    exact looped
  have told : after.events = f.transcript.filter wanted := by
    rw [told,openJournal,Journal.note_events,Journal.note_wanted]
    exact (List.filter_append [f.opening] _).symm
  rw [f.search_exact narrow looped,told]

-- The truth found at a number is that under every valuation that repeats the assignment.
structure Transcript (result : Option Model) (attempts : List Bool) (closing : Event) : Prop where
  truthful : ∀ (i : Nat) (satisfied : Bool), attempts[i]? = some satisfied →
    ∃ a, ofIndex f.numVariables i = .ok a ∧ f.isSatisfiedBy a = .ok satisfied ∧
      ∀ v, f.support.list.map v = a → (satisfied = true ↔ f.Holds v)
  refuted : ∀ satisfied ∈ attempts.dropLast, satisfied = false
  closed : (∃ m k, result = some m ∧ closing = .found k ∧ attempts.length = k + 1 ∧
      attempts.getLast? = some true ∧ m.formula = f ∧ ofIndex f.numVariables k = .ok m.assignment) ∨
    result = none ∧ closing = .exhausted ∧ attempts = List.replicate (2 ^ f.numVariables) false

def records (attempts : List Bool) (closing : Event) : List (Severity × Event) :=
  (.debug,.searching (2 ^ f.numVariables) f.numVariables f.clauses.length (f.clauses.map List.length).sum) ::
    attempts.mapIdx (fun i satisfied => (.trace,.tried i satisfied)) ++ [(.debug,closing)]

theorem satisfiedAt_truth (i : Nat) : f.isSatisfiedBy (numbered f.numVariables i) = .ok (f.satisfiedAt i) ∧
    ∀ v, f.support.list.map v = numbered f.numVariables i → (f.satisfiedAt i = true ↔ f.Holds v) := by
  constructor
  · rw [isSatisfiedBy,align_numbered]
    rfl
  · intro v same
    have agrees : (f.interpretationAt i).Agrees v := Interpretation.agrees_exact.mpr same
    exact eval_exact agrees fun _ member => member

theorem transcript_records : f.transcript.map Event.record =
    f.records (f.attempts 0 (2 ^ f.numVariables)) (closing f.firstIndex?) := by
  have literals : f.numLiterals = (f.clauses.map List.length).sum := List.length_flatten
  have ended : (closing f.firstIndex?).record = (.debug,closing f.firstIndex?) := by
    cases f.firstIndex? <;> rfl
  rw [transcript,loopEvents,← firstIndex?_from,records,opening,literals,List.map_cons,List.map_append,
    List.map_singleton,ended]
  simp only [List.mapIdx_eq_zipIdx_map,List.map_map,Nat.zero_add]
  rfl

theorem search_closed (narrow : f.numVariables ≤ maxWidth) :
    f.Transcript (f.firstIndex?.map f.modelAt) (f.attempts 0 (2 ^ f.numVariables)) (closing f.firstIndex?) := by
  have truthful : ∀ (i : Nat) (satisfied : Bool), (f.attempts 0 (2 ^ f.numVariables))[i]? = some satisfied →
      ∃ a, ofIndex f.numVariables i = .ok a ∧ f.isSatisfiedBy a = .ok satisfied ∧
        ∀ v, f.support.list.map v = a → (satisfied = true ↔ f.Holds v) := by
    intro i satisfied tried
    obtain rfl : satisfied = f.satisfiedAt i := by simpa using f.attempts_at tried
    exact ⟨_,ofIndex_numbered narrow,f.satisfiedAt_truth i⟩
  cases found : f.firstIndex? with
  | some k =>
    obtain ⟨_,all⟩ := f.attempts_found (f.firstIndex?_from.symm.trans found)
    rw [all] at truthful ⊢
    exact ⟨truthful,by simp,.inl ⟨f.modelAt k,k,rfl,rfl,by simp,by simp,rfl,ofIndex_numbered narrow⟩⟩
  | none =>
    have all := f.attempts_exhausted (f.firstIndex?_from.symm.trans found)
    rw [all] at truthful ⊢
    exact ⟨truthful,by simp,.inr ⟨rfl,rfl,rfl⟩⟩

theorem search_transcript (f : Formula) (narrow : f.numVariables ≤ 63) :
    ∃ result attempts closing, f.Transcript result attempts closing ∧
      (∃ events, f.search (.upTo (some .trace)) = .ok ⟨result,events⟩ ∧
        events.map Event.record = f.records attempts closing) ∧
      ∀ level, ∃ events, f.search (.upTo level) = .ok ⟨result,events⟩ ∧
        events.map Event.record = (f.records attempts closing).filter fun r => r.1.passes level := by
  refine ⟨_,_,_,f.search_closed narrow,?_,?_⟩
  · refine ⟨_,f.search_events narrow _,?_⟩
    rw [Interest.upTo_trace,transcript_records]
  · intro level
    refine ⟨_,f.search_events narrow _,?_⟩
    rw [Interest.upTo_record,transcript_records]

-- The third attempt is the last. Without the attempts the log still tells which it was.
theorem search_transcript_third :
    let x2 : Variable := ⟨2,by decide,by decide⟩
    let x9 : Variable := ⟨9,by decide,by decide⟩
    let f : Formula := ⟨[[⟨x9,true⟩,⟨x2,true⟩],[⟨x2,false⟩]]⟩
    f.numVariables ≤ 63 ∧ ∃ m attempts closing, f.Transcript (some m) attempts closing ∧
      m.assignment = [false,true] ∧
      (∃ events, f.search (.upTo (some .trace)) = .ok ⟨some m,events⟩ ∧ events.map Event.record =
        [(.debug,.searching 4 2 2 3),(.trace,.tried 0 false),(.trace,.tried 1 false),(.trace,.tried 2 true),
          (.debug,.found 2)]) ∧
      ∃ events, f.search (.upTo (some .debug)) = .ok ⟨some m,events⟩ ∧
        events.map Event.record = [(.debug,.searching 4 2 2 3),(.debug,.found 2)] := by
  intro x2 x9 f
  have narrow : f.numVariables ≤ 63 := by decide
  obtain ⟨result,attempts,closing,went,⟨events,searched,recorded⟩,levels⟩ := search_transcript f narrow
  obtain ⟨fewer,searchedAgain,kept⟩ := levels (some .debug)
  have third : f.firstIndex? = some 2 := by decide
  have ran := f.search_events narrow (.upTo (some .trace))
  rw [third] at ran
  rw [ran] at searched
  cases searched
  have all : (f.transcript.filter (Interest.upTo (some .trace))).map Event.record =
      [(.debug,.searching 4 2 2 3),(.trace,.tried 0 false),(.trace,.tried 1 false),(.trace,.tried 2 true),
        (.debug,.found 2)] := by decide
  refine ⟨narrow,f.modelAt 2,attempts,closing,went,by decide,⟨_,ran,all⟩,fewer,searchedAgain,?_⟩
  rw [kept,← recorded,all]
  decide

end CnfSearch.Formula
