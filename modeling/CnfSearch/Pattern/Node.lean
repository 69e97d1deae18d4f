import CnfSearch.Pattern.Flaw

namespace CnfSearch.Pattern

-- One given by two hexadecimal digits stands for a byte where the pattern is not Unicode.
structure Letter where
  stretch : Stretch
  value : Char
  isByte : Bool

inductive SetName where
  | digit
  | space
  | word
  | alnum
  | alpha
  | ascii
  | blank
  | cntrl
  | graph
  | lower
  | print
  | punct
  | upper
  | xdigit
  deriving DecidableEq

inductive Property where
  | named (name : List Char)
  | valued (name value : List Char)

inductive SetOperation where
  | intersection
  | difference
  | symmetricDifference

-- The one-letter classes follow Unicode and the bracketed names follow ASCII.
inductive CharSet where
  | empty (stretch : Stretch)
  | range (stretch : Stretch) (first last : Letter)
  | short (stretch : Stretch) (name : SetName) (negated : Bool)
  | ascii (stretch : Stretch) (name : SetName) (negated : Bool)
  | property (stretch : Stretch) (property : Property) (negated : Bool)
  | bracket (stretch : Stretch) (negated : Bool) (content : CharSet)
  | union (stretch : Stretch) (items : List CharSet)
  | combined (stretch : Stretch) (operation : SetOperation) (left right : CharSet)

inductive Flag where
  | ignoreCase
  | multiLine
  | dotMatchesAll
  | swapGreed
  | unicode
  | crlf
  | ignoreBlanks
  deriving DecidableEq

abbrev FlagChanges := List (Flag × Bool)

inductive Look where
  | lineStart
  | lineEnd
  | textStart
  | textEnd
  | wordBoundary
  | noWordBoundary
  | wordStart
  | wordEnd
  | wordStartHalf
  | wordEndHalf
  deriving DecidableEq

inductive Node where
  | empty (stretch : Stretch)
  | flags (stretch : Stretch) (changes : FlagChanges)
  | letter (letter : Letter)
  | dot (stretch : Stretch)
  | look (stretch : Stretch) (look : Look)
  | chars (stretch : Stretch) (content : CharSet)
  | group (stretch : Stretch) (captures : Bool) (changes : FlagChanges) (body : Node)
  | repetition (stretch : Stretch) (least : Nat) (most : Option Nat) (body : Node)
  | branches (stretch : Stretch) (nodes : List Node)
  | sequence (stretch : Stretch) (nodes : List Node)

def CharSet.stretch : CharSet → Stretch
  | .empty s | .range s _ _ | .short s _ _ | .ascii s _ _ | .property s _ _
  | .bracket s _ _ | .union s _ | .combined s _ _ _ => s

def CharSet.ofItems (start : Place) : List CharSet → CharSet
  | [] => .empty ⟨start,start⟩
  | [item] => item
  | item :: rest =>
    let last := (rest.getLastD item).stretch.last
    .union ⟨item.stretch.first,last⟩ (item :: rest)

def CharSet.combine (operation : SetOperation) (left right : CharSet) : CharSet :=
  .combined ⟨left.stretch.first,right.stretch.last⟩ operation left right

def Node.stretch : Node → Stretch
  | .letter l => l.stretch
  | .empty s | .flags s _ | .dot s | .look s _ | .chars s _ | .group s _ _ _
  | .repetition s _ _ _ | .branches s _ | .sequence s _ => s

def Node.ofSequence (stretch : Stretch) : List Node → Node
  | [] => .empty stretch
  | [node] => node
  | nodes => .sequence stretch nodes

def Node.ofBranches (stretch : Stretch) : List Node → Node
  | [node] => node
  | nodes => .branches stretch nodes

mutual

def CharSet.tooDeep? (depth : Nat) : CharSet → Option Stretch
  | .bracket s _ content => if depth = 0 then some s else content.tooDeep? (depth - 1)
  | .union s items => if depth = 0 then some s else CharSet.anyTooDeep? (depth - 1) items
  | .combined s _ left right =>
    if depth = 0 then some s
    else (left.tooDeep? (depth - 1)).or (right.tooDeep? (depth - 1))
  | .empty _ | .range _ _ _ | .short _ _ _ | .ascii _ _ _ | .property _ _ _ => none

def CharSet.anyTooDeep? (depth : Nat) : List CharSet → Option Stretch
  | [] => none
  | item :: rest => (item.tooDeep? depth).or (CharSet.anyTooDeep? depth rest)

end

mutual

def Node.tooDeep? (depth : Nat) : Node → Option Stretch
  | .chars _ content => content.tooDeep? depth
  | .group s _ _ body => if depth = 0 then some s else body.tooDeep? (depth - 1)
  | .repetition s _ _ body => if depth = 0 then some s else body.tooDeep? (depth - 1)
  | .branches s nodes => if depth = 0 then some s else Node.anyTooDeep? (depth - 1) nodes
  | .sequence s nodes => if depth = 0 then some s else Node.anyTooDeep? (depth - 1) nodes
  | .empty _ | .flags _ _ | .letter _ | .dot _ | .look _ _ => none

def Node.anyTooDeep? (depth : Nat) : List Node → Option Stretch
  | [] => none
  | node :: rest => (node.tooDeep? depth).or (Node.anyTooDeep? depth rest)

end

end CnfSearch.Pattern
