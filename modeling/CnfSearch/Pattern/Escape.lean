import CnfSearch.Pattern.Scan
import CnfSearch.Text.Hexadecimal

namespace CnfSearch.Pattern

def cutAt? (mark : List Char) : List Char → Option (List Char × List Char)
  | [] => none
  | c :: rest =>
    if mark.isPrefixOf (c :: rest) then some ([],(c :: rest).drop mark.length)
    else (cutAt? mark rest).map fun (before,after) => (c :: before,after)

def Property.ofText (text : List Char) : Property × Bool :=
  match cutAt? ['!','='] text with
  | some (name,value) => (.valued name value,true)
  | none =>
    match (cutAt? [':'] text).or (cutAt? ['='] text) with
    | some (name,value) => (.valued name value,false)
    | none => (.named text,false)

namespace Reading

def hexCharacter? (digits : List Char) : Option Char :=
  let value := Text.hexValue digits
  if value.isValidChar then some (Char.ofNat value) else none

def braced (accepts : Char → Bool) : Nat → Reading (List Char)
  | 0 => return []
  | fuel + 1 => do
    if !(← step) then return []
    match ← next? with
    | none | some '}' => return []
    | some c =>
      if accepts c then return c :: (← braced accepts fuel)
      else
        let place ← here
        refuse .hexDigit place (place.after c)

def hexDigits (isFirst : Bool) : Nat → Reading (List Char)
  | 0 => return []
  | count + 1 => do
    if !isFirst then let _ ← step
    let place ← here
    match ← next? with
    | none => refuse .escapeUnfinished place place
    | some c =>
      if (Text.hexDigit? c).isSome then return c :: (← hexDigits false count)
      else refuse .hexDigit place (place.after c)

def hexLetter (first : Place) (width : Nat) : Reading Letter := do
  if !(← step) then
    let place ← here
    refuse .escapeUnfinished place place
  let start ← here
  if (← next?) = some '{' then
    let digits ← braced (fun c => (Text.hexDigit? c).isSome) (← get).rest.length
    let last ← here
    if ← atEnd then refuse .escapeUnfinished start last
    let _ ← step
    if digits.isEmpty then refuse .hexEmpty start (← here)
    match hexCharacter? digits with
    | some c => return ⟨⟨first,← here⟩,c,false⟩
    | none => refuse .hexNoCharacter (start.after '{') last
  else
    let digits ← hexDigits true width
    let _ ← step
    let last ← here
    match hexCharacter? digits with
    | some c => return ⟨⟨first,last⟩,c,width == 2⟩
    | none => refuse .hexNoCharacter start last

def property (first : Place) (negated : Bool) : Reading Node := do
  if !(← step) then
    let place ← here
    refuse .escapeUnfinished place place
  let start ← here
  match ← next? with
  | none => refuse .escapeUnfinished start start
  | some '{' =>
    let text ← braced (fun _ => true) (← get).rest.length
    let place ← here
    if ← atEnd then refuse .escapeUnfinished place place
    advance
    let (property,opposite) := Property.ofText text
    let stretch : Stretch := ⟨first,← here⟩
    return .chars stretch (.property stretch property (negated != opposite))
  | some '\\' => refuse .propertyLetter start (start.after '\\')
  | some c =>
    let _ ← step
    let stretch : Stretch := ⟨first,← here⟩
    return .chars stretch (.property stretch (.named [c]) negated)

def isBoundaryLetter (c : Char) : Bool := c.isAlpha || c == '-'

def boundaryLetters : Nat → Reading (List Char)
  | 0 => return []
  | fuel + 1 => do
    match ← next? with
    | none => return []
    | some c =>
      if isBoundaryLetter c then
        let _ ← step
        return c :: (← boundaryLetters fuel)
      else return []

def boundaryNamed? (name : List Char) : Option Look :=
  match String.ofList name with
  | "start" => some .wordStart
  | "end" => some .wordEnd
  | "start-half" => some .wordStartHalf
  | "end-half" => some .wordEndHalf
  | _ => none

-- Braces that cannot hold a name are a count and are left for it.
def boundaryName? (first : Place) : Reading (Option Look) := do
  let before ← get
  if before.rest.head? ≠ some '{' then return none
  if !(← step) then refuse .boundaryUnfinished first (← here)
  let start ← here
  let s ← get
  if !s.rest.head?.any isBoundaryLetter then
    set before
    return none
  let name ← boundaryLetters s.rest.length
  let last ← here
  if (← next?) ≠ some '}' then refuse .boundaryUnclosed before.place last
  advance
  match boundaryNamed? name with
  | some look => return some look
  | none => refuse .boundaryUnknown start last

def isEscapable (c : Char) : Bool :=
  c.toNat < 128 && !c.isAlphanum && c != '<' && c != '>'

def controlLetter? : Char → Option Char
  | 'a' => some '\x07'
  | 'f' => some '\x0c'
  | 't' => some '\t'
  | 'n' => some '\n'
  | 'r' => some '\r'
  | 'v' => some '\x0b'
  | _ => none

def lookNamed? : Char → Option Look
  | 'A' => some .textStart
  | 'z' => some .textEnd
  | 'b' => some .wordBoundary
  | 'B' => some .noWordBoundary
  | '<' => some .wordStart
  | '>' => some .wordEnd
  | _ => none

def setNamed? : Char → Option (SetName × Bool)
  | 'd' => some (.digit,false)
  | 'D' => some (.digit,true)
  | 's' => some (.space,false)
  | 'S' => some (.space,true)
  | 'w' => some (.word,false)
  | 'W' => some (.word,true)
  | _ => none

def shortEscape (first : Place) (c : Char) : Reading Node := do
  advance
  let stretch : Stretch := ⟨first,← here⟩
  if let some (name,negated) := setNamed? c then
    return .chars stretch (.short stretch name negated)
  if isEscapable c then return .letter ⟨stretch,c,false⟩
  if let some value := controlLetter? c then return .letter ⟨stretch,value,false⟩
  match lookNamed? c with
  | some .wordBoundary =>
    match ← boundaryName? first with
    | some look => return .look ⟨first,← here⟩ look
    | none => return .look stretch .wordBoundary
  | some look => return .look stretch look
  | none => refuse .escapeUnknown first stretch.last

def escape : Reading Node := do
  let first ← here
  advance
  let place ← here
  match ← next? with
  | none => refuse .escapeUnfinished first place
  | some 'x' => return .letter (← hexLetter first 2)
  | some 'u' => return .letter (← hexLetter first 4)
  | some 'U' => return .letter (← hexLetter first 8)
  | some 'p' => property first false
  | some 'P' => property first true
  | some c =>
    if c.isDigit then refuse .backreference first (place.after c)
    else shortEscape first c

end Reading
end CnfSearch.Pattern
