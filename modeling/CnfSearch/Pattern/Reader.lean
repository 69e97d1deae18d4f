import CnfSearch.Pattern.Bracket
import CnfSearch.Unicode.NameCharacter

namespace CnfSearch.Pattern

inductive Head where
  | flags (stretch : Stretch) (changes : FlagChanges)
  | group (stretch : Stretch) (captures : Bool) (changes : FlagChanges)

namespace Reading

def flagNamed? : Char → Option Flag
  | 'i' => some .ignoreCase
  | 'm' => some .multiLine
  | 's' => some .dotMatchesAll
  | 'U' => some .swapGreed
  | 'u' => some .unicode
  | 'R' => some .crlf
  | 'x' => some .ignoreBlanks
  | _ => none

-- Flags after the hyphen are cleared, and none may be named twice.
def flags (seen : List (Char × Stretch)) (changes : FlagChanges) :
    Nat → Reading FlagChanges
  | 0 => return changes.reverse
  | fuel + 1 => do
    let place ← here
    match ← next? with
    | none => refuse .flagUnfinished place place
    | some c =>
      let stretch : Stretch := ⟨place,place.after c⟩
      if c = ':' ∨ c = ')' then
        match seen with
        | ('-',dangling) :: _ => throw ⟨.flagNegationDangling,dangling,none⟩
        | _ => return changes.reverse
      else if c = '-' then
        if let some earlier := seen.lookup c then
          throw ⟨.flagNegationTwice,stretch,some earlier⟩
        advance
        flags ((c,stretch) :: seen) changes fuel
      else
        match flagNamed? c with
        | none => throw ⟨.flagUnknown,stretch,none⟩
        | some flag =>
          if let some earlier := seen.lookup c then
            throw ⟨.flagTwice,stretch,some earlier⟩
          advance
          flags ((c,stretch) :: seen) ((flag,(seen.lookup '-').isNone) :: changes) fuel

def isNameChar (isFirst : Bool) (c : Char) : Bool :=
  c == '_' || Unicode.NameCharacter.letters.contains c.toNat ||
  !isFirst && (c == '.' || c == '[' || c == ']' ||
    Unicode.NameCharacter.numbers.contains c.toNat)

def groupName (isFirst : Bool) : Nat → Reading (List Char)
  | 0 => return []
  | fuel + 1 => do
    let place ← here
    match ← next? with
    | none => refuse .nameUnfinished place place
    | some '>' => return []
    | some c =>
      if isNameChar isFirst c then
        advance
        return c :: (← groupName false fuel)
      else refuse .nameCharacter place (place.after c)

def named : Reading Unit := do
  let start ← here
  let name ← groupName true ((← get).rest.length + 1)
  let stretch : Stretch := ⟨start,← here⟩
  advance
  if name.isEmpty then throw ⟨.nameEmpty,⟨start,start⟩,none⟩
  let s ← get
  if let some earlier := s.names.lookup name then throw ⟨.nameTwice,stretch,some earlier⟩
  set { s with names := (name,stretch) :: s.names }

def acceptAny : List String → Reading Bool
  | [] => return false
  | text :: rest => do
    if ← accept text then return true
    acceptAny rest

def head : Reading Head := do
  let first ← here
  let stretch : Stretch := ⟨first,first.after '('⟩
  advance
  skipBlanks
  if ← acceptAny ["?=","?!","?<=","?<!"] then refuse .lookAround first (← here)
  let inner ← here
  if ← acceptAny ["?P<","?<"] then
    named
    return .group stretch true []
  else if ← accept "?" then
    if ← atEnd then throw ⟨.groupUnclosed,stretch,none⟩
    let changes ← flags [] [] ((← get).rest.length + 1)
    let closes := (← next?) = some ')'
    advance
    if !closes then return .group stretch false changes
    else if changes.isEmpty then refuse .nothingToRepeat inner inner
    else return .flags ⟨first,← here⟩ changes
  else return .group stretch true []

def decimalDigits : Nat → Reading (List Char)
  | 0 => return []
  | fuel + 1 => do
    match ← next? with
    | none => return []
    | some c =>
      if c.isDigit then
        let _ ← step
        return c :: (← decimalDigits fuel)
      else return []

-- Blanks are passed over here even where they otherwise stand for themselves.
def passBlanks (comments : Bool) : Nat → Reading Unit
  | 0 => return
  | fuel + 1 => do
    if (← next?).any Text.isBlank then
      advance
      if comments then skipBlanks
      passBlanks comments fuel

def decimal : Reading (Except Refusal Nat) := do
  passBlanks false (← get).rest.length
  let start ← here
  let digits ← decimalDigits (← get).rest.length
  let stretch : Stretch := ⟨start,← here⟩
  passBlanks true (← get).rest.length
  let value := Nat.ofDigitChars 10 digits 0
  if digits.isEmpty then return .error ⟨.countEmpty,stretch,none⟩
  else if value < 4294967296 then return .ok value
  else return .error ⟨.decimalInvalid,stretch,none⟩

def count (first : Place) : Reading (Nat × Option Nat) := do
  let unclosed : Reading Unit := do refuse .countUnclosed first (← here)
  if !(← step) then unclosed
  let least ← decimal
  if ← atEnd then unclosed
  let range ←
    if (← next?) = some ',' then do
      if !(← step) then unclosed
      if (← next?) = some '}' then pure (← least,none)
      else
        let least ← least
        let most ← decimal
        pure (least,some (← most))
    else
      let least ← least
      pure (least,some least)
  if (← next?) ≠ some '}' then unclosed
  if ← step then
    if (← next?) = some '?' then advance
  if range.2.any (· < range.1) then refuse .countOrder first (← here)
  return range

def repeated (node : Node) (range : Nat × Option Nat) : Reading Node := do
  return .repetition ⟨node.stretch.first,← here⟩ range.1 range.2 node

-- A question mark after an operator asks for as few repetitions as can be.
def operatorRange (c : Char) : Reading (Nat × Option Nat) := do
  if c = '{' then count (← here)
  else
    advance
    if (← next?) = some '?' then advance
    return if c = '*' then (0,none) else if c = '+' then (1,none) else (0,some 1)

def repetition (c : Char) (nodes : List Node) : Reading (List Node) := do
  let place ← here
  match nodes with
  | [] | .flags _ _ :: _ => refuse .nothingToRepeat place place
  | node :: rest => return (← repeated node (← operatorRange c)) :: rest

def plain (c : Char) : Reading Node := do
  let place ← here
  let stretch : Stretch := ⟨place,place.after c⟩
  advance
  return match c with
    | '.' => .dot stretch
    | '^' => .look stretch .lineStart
    | '$' => .look stretch .lineEnd
    | _ => .letter ⟨stretch,c,false⟩

def setExtended (changes : FlagChanges) : Reading Unit :=
  modify fun s => { s with extended := (changes.lookup .ignoreBlanks).getD s.extended }

mutual

def sequence (opened : Option Stretch) (nodes : List Node) : Nat → Reading (List Node)
  | 0 => return nodes
  | fuel + 1 => do
    skipBlanks
    let place ← here
    match (← next?) with
    | none =>
      match opened with
      | some stretch => throw ⟨.groupUnclosed,stretch,none⟩
      | none => return nodes
    | some '|' => return nodes
    | some ')' =>
      if opened.isNone then refuse .groupUnopened place (place.after ')')
      return nodes
    | some '(' =>
      let outer := (← get).extended
      match ← head with
      | .flags stretch changes =>
        setExtended changes
        sequence opened (.flags stretch changes :: nodes) fuel
      | .group stretch captures changes =>
        setExtended changes
        let start ← here
        let body ← branches (some stretch) start [] fuel
        modify fun s => { s with extended := outer }
        advance
        sequence opened (.group ⟨place,← here⟩ captures changes body :: nodes) fuel
    | some '[' =>
      let set ← bracket (2 * (← get).rest.length)
      sequence opened (.chars set.stretch set :: nodes) fuel
    | some '\\' => sequence opened ((← escape) :: nodes) fuel
    | some c =>
      if c = '?' ∨ c = '*' ∨ c = '+' ∨ c = '{' then
        sequence opened (← repetition c nodes) fuel
      else sequence opened ((← plain c) :: nodes) fuel

def branches (opened : Option Stretch) (start : Place) (done : List Node) :
    Nat → Reading Node
  | 0 => return .empty ⟨start,start⟩
  | fuel + 1 => do
    let first ← here
    let nodes ← sequence opened [] fuel
    let last ← here
    let done := Node.ofSequence ⟨first,last⟩ nodes.reverse :: done
    if (← next?) = some '|' then
      advance
      branches opened start done fuel
    else return .ofBranches ⟨start,last⟩ done.reverse

end

end Reading

def Node.read (pattern : List Char) : Except Refusal Node := do
  let start := Scan.start pattern
  let (node,_) ←
    (Reading.branches none start.place [] (2 * pattern.length + 3)).run start
  match node.tooDeep? depthLimit with
  | some stretch => throw ⟨.tooDeep,stretch,none⟩
  | none => return node

end CnfSearch.Pattern
