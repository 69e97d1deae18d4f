import CnfSearch.Pattern.Matcher
import CnfSearch.Pattern.NamedSet
import CnfSearch.Unicode.Casing

namespace CnfSearch.Pattern

open Unicode

abbrev Understood := Except Refusal

def misread (flaw : Flaw) (stretch : Stretch) : Understood α :=
  .error ⟨flaw,stretch,none⟩

def foldAscii (ranges : CodeRanges) : CodeRanges :=
  let lower := (CodeRanges.ofText "61-7A").inter ranges
  let upper := (CodeRanges.ofText "41-5A").inter ranges
  .unions [ranges,lower.map fun (low,high) => (low - 32,high - 32),
    upper.map fun (low,high) => (low + 32,high + 32)]

def Flags.fold (f : Flags) (ranges : CodeRanges) : CodeRanges :=
  if !f.ignoreCase then ranges
  else if f.unicode then ranges.foldCase
  else foldAscii ranges

namespace Letter

def isAscii (c : Char) : Bool := c.toNat < 128

-- Without Unicode, a byte that is no character by itself stands for nothing in a text.
def value? (f : Flags) (l : Letter) : Understood Char :=
  if !f.unicode && l.isByte && !isAscii l.value then misread .notUtf8 l.stretch
  else .ok l.value

def inSet (f : Flags) (l : Letter) : Understood Char := do
  let c ← l.value? f
  if !f.unicode && !isAscii c then misread .notUnicode l.stretch
  else return c

def matcher (f : Flags) (l : Letter) : Understood Matcher := do
  let c ← l.value? f
  return .ofRanges (f.fold [(c.toNat,c.toNat)])

end Letter

namespace CharSet

def negate (f : Flags) (stretch : Stretch) (negated : Bool) (ranges : CodeRanges) :
    Understood CodeRanges :=
  if !negated then .ok ranges
  else if f.unicode then .ok ranges.complement
  else misread .notUtf8 stretch

def operate : SetOperation → CodeRanges → CodeRanges → CodeRanges
  | .intersection => .inter
  | .difference => .diff
  | .symmetricDifference => .symmDiff

mutual

def meaning (f : Flags) : CharSet → Understood CodeRanges
  | .empty _ => .ok []
  | .range _ first last => do
    return [((← first.inSet f).toNat,(← last.inSet f).toNat)]
  | .short stretch name negated =>
    negate f stretch negated (if f.unicode then name.wide else name.narrow)
  | .ascii stretch name negated => negate f stretch negated (f.fold name.narrow)
  | .property stretch wanted negated =>
    if !f.unicode then misread .notUnicode stretch
    else
      match wanted.find with
      | .error flaw => misread flaw stretch
      | .ok ranges => negate f stretch negated (f.fold ranges)
  | .bracket stretch negated content => do
    negate f stretch negated (f.fold (← content.meaning f))
  | .union _ items => return .unions (← itemMeanings f items)
  | .combined _ operation left right => do
    let left ← left.meaning f
    let right ← right.meaning f
    return operate operation (f.fold left) (f.fold right)

def itemMeanings (f : Flags) : List CharSet → Understood (List CodeRanges)
  | [] => .ok []
  | item :: rest => do return (← item.meaning f) :: (← itemMeanings f rest)

end

end CharSet

def dotMatcher (f : Flags) (stretch : Stretch) : Understood Matcher :=
  if !f.unicode then misread .notUtf8 stretch
  else
    let excluded : CodeRanges :=
      if f.dotMatchesAll then [] else if f.crlf then .ofText "A D" else .ofText "A"
    .ok (.ofRanges excluded.complement)

namespace Node

mutual

-- Flags change up to the end of the group that the change is in.
def meaning (f : Flags) : Node → Understood (Matcher × Flags)
  | .empty _ => .ok (.empty,f)
  | .flags _ changes => .ok (.empty,f.changeAll changes)
  | .letter l => return (← l.matcher f,f)
  | .dot stretch => return (← dotMatcher f stretch,f)
  | .look _ kind => .ok (.look kind f,f)
  | .chars _ content => return (.ofRanges (← content.meaning f),f)
  | .group _ captures changes body => do
    let (m,_) ← body.meaning (f.changeAll changes)
    return (if captures then .capture m else m,f)
  | .repetition _ least most body => do
    let (m,f) ← body.meaning f
    return (.ofRepetition least most m,f)
  | .branches _ nodes => do
    let (items,f) ← meanings f nodes
    return (.ofBranches items,f)
  | .sequence _ nodes => do
    let (items,f) ← meanings f nodes
    return (.ofSequence items,f)

def meanings (f : Flags) : List Node → Understood (List Matcher × Flags)
  | [] => .ok ([],f)
  | node :: rest => do
    let (first,f) ← node.meaning f
    let (others,f) ← meanings f rest
    return (first :: others,f)

end

end Node
end CnfSearch.Pattern
