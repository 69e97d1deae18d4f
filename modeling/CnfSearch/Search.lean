import CnfSearch.Cursor
import CnfSearch.Journal
import CnfSearch.Model

namespace CnfSearch.Formula

-- Stops at the first assignment that satisfies, or when there are no more.
def searchFrom (f : Formula) (support : Support) (c : Cursor) (journal : Journal) :
    Except Fault (Option Assignment × Journal) :=
  match _ : c.next with
  | .error fault => .error fault
  | .ok (none,_) => .ok (none,journal.note .exhausted)
  | .ok (some values,after) =>
    match Interpretation.align support values with
    | .error fault => .error fault
    | .ok i =>
      let satisfied := f.eval i
      let journal := journal.note (.tried c.index satisfied)
      if satisfied then .ok (some values,journal.note (.found c.index))
      else f.searchFrom support after journal
termination_by Word.bound - c.index
decreasing_by exact Cursor.next_decreases ‹_›

def search (f : Formula) (wanted : Interest) : Except Fault (Logged (Option Model)) := do
  let support := f.support
  let cursor ← Cursor.start support.size
  let bounds ← cursor.sizeBounds
  let opening := Event.searching bounds.1 support.size f.numClauses f.numLiterals
  let (found,journal) ← f.searchFrom support cursor ((Journal.start wanted).note opening)
  match found with
  | none => return ⟨none,journal.events⟩
  | some values => return ⟨some (← Model.align f values),journal.events⟩

def findModel (f : Formula) : Except Fault (Option Model) :=
  (f.search .none).map Logged.value

end CnfSearch.Formula
