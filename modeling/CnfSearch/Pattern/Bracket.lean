import CnfSearch.Pattern.Escape

namespace CnfSearch.Pattern

def SetName.ofText? (text : List Char) : Option SetName :=
  match String.ofList text with
  | "alnum" => some .alnum
  | "alpha" => some .alpha
  | "ascii" => some .ascii
  | "blank" => some .blank
  | "cntrl" => some .cntrl
  | "digit" => some .digit
  | "graph" => some .graph
  | "lower" => some .lower
  | "print" => some .print
  | "punct" => some .punct
  | "space" => some .space
  | "upper" => some .upper
  | "word" => some .word
  | "xdigit" => some .xdigit
  | _ => none

def Letter.written (place : Place) (c : Char) : Letter := ⟨⟨place,place.after c⟩,c,false⟩

def Letter.toSet (l : Letter) : CharSet := .range l.stretch l l

structure OpenBracket where
  head : Stretch
  left : Option (CharSet × SetOperation)
  start : Place
  items : List CharSet

namespace OpenBracket

def push (b : OpenBracket) (item : CharSet) : OpenBracket :=
  { b with items := item :: b.items }

def content (b : OpenBracket) : CharSet :=
  let right := CharSet.ofItems b.start b.items.reverse
  match b.left with
  | none => right
  | some (left,operation) => .combine operation left right

def operate (b : OpenBracket) (operation : SetOperation) (place : Place) : OpenBracket :=
  { b with left := some (b.content,operation), start := place, items := [] }

end OpenBracket

namespace Reading

def unclosed (b : OpenBracket) : Reading α := throw ⟨.setUnclosed,b.head,none⟩

def hyphens (first : Place) : Nat → Reading (List CharSet)
  | 0 => return []
  | fuel + 1 => do
    if (← next?) ≠ some '-' then return []
    let letter := Letter.written (← here) '-'
    if !(← step) then refuse .setUnclosed first first
    return letter.toSet :: (← hyphens first fuel)

-- A closing bracket at the head stands for itself.
def openBracket : Reading (OpenBracket × Bool) := do
  let first ← here
  let stepOn : Reading Unit := do
    if !(← step) then refuse .setUnclosed first (← here)
  stepOn
  let negated := (← next?) = some '^'
  if negated then stepOn
  let start ← here
  let items ← hyphens first (← get).rest.length
  if items.isEmpty && (← next?) = some ']' then
    stepOn
    return (⟨⟨first,← here⟩,none,start,[(Letter.written start ']').toSet]⟩,negated)
  else return (⟨⟨first,← here⟩,none,start,items.reverse⟩,negated)

def asciiSet? : Reading (Option CharSet) := do
  let before ← get
  let place := before.place
  let named? : Option (Nat × SetName × Bool) := do
    let '[' :: ':' :: text := before.rest | none
    let negated := text.head? = some '^'
    let text := if negated then text.drop 1 else text
    let name := text.takeWhile (· != ':')
    if [':',']'].isPrefixOf (text.drop name.length) then
      return (name.length + (if negated then 5 else 4),← SetName.ofText? name,negated)
    else none
  match named? with
  | none => return none
  | some (length,name,negated) =>
    set (before.advanceBy length)
    return some (.ascii ⟨place,← here⟩ name negated)

def setItem : Reading Node := do
  let place ← here
  match ← next? with
  | some '\\' => escape
  | some c =>
    advance
    return .letter (.written place c)
  | none => refuse .setUnclosed place place

def asItem : Node → Reading CharSet
  | .letter l => return l.toSet
  | .chars _ content => return content
  | node => refuse .setEscape node.stretch.first node.stretch.last

def asBound : Node → Reading Letter
  | .letter l => return l
  | node => refuse .setRangeBoundary node.stretch.first node.stretch.last

-- A hyphen makes a range, unless it ends the bracket or begins an operator.
def setRange (b : OpenBracket) : Reading CharSet := do
  let left ← setItem
  skipBlanks
  let s ← get
  if s.rest.isEmpty then unclosed b
  let second := s.second?
  if s.rest.head? ≠ some '-' ∨ second = some ']' ∨ second = some '-' then asItem left
  else
    if !(← step) then unclosed b
    let right ← setItem
    let stretch : Stretch := ⟨left.stretch.first,right.stretch.last⟩
    let low ← asBound left
    let high ← asBound right
    if high.value < low.value then throw ⟨.setRangeOrder,stretch,none⟩
    return .range stretch low high

mutual

def setItems (b : OpenBracket) : Nat → Reading CharSet
  | 0 => unclosed b
  | fuel + 1 => do
    skipBlanks
    match (← get).rest with
    | [] => unclosed b
    | ']' :: _ => return b.content
    | '[' :: _ =>
      match ← asciiSet? with
      | some item => setItems (b.push item) fuel
      | none => setItems (b.push (← bracket fuel)) fuel
    | '&' :: '&' :: _ => operator b .intersection fuel
    | '-' :: '-' :: _ => operator b .difference fuel
    | '~' :: '~' :: _ => operator b .symmetricDifference fuel
    | _ => setItems (b.push (← setRange b)) fuel

def operator (b : OpenBracket) (operation : SetOperation) : Nat → Reading CharSet
  | 0 => unclosed b
  | fuel + 1 => do
    advance
    advance
    setItems (b.operate operation (← here)) fuel

def bracket : Nat → Reading CharSet
  | 0 => do
    let place ← here
    refuse .setUnclosed place place
  | fuel + 1 => do
    let (b,negated) ← openBracket
    let content ← setItems b fuel
    advance
    return .bracket ⟨b.head.first,← here⟩ negated content

end

end Reading
end CnfSearch.Pattern
