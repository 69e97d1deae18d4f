import CnfSearch.Pattern.Matcher
import CnfSearch.Unicode.Utf8
import Std.Data.HashMap

namespace CnfSearch.Pattern

open Unicode

-- An edge that leads from one state to one other needs no list.
structure Room where
  states : Nat
  listBytes : Nat

namespace Room

def stateBytes : Nat := 32

def freeEdgeBytes : Nat := 4
def edgeBytes : Nat := 8

def limit : Nat := 10485760

def bytes (r : Room) : Nat := stateBytes * r.states + r.listBytes

end Room

-- Building fails at the limit.
abbrev Building := StateT Room Option

structure Piece where
  first : Nat
  last : Nat
  branches : Bool

namespace Building

def check (r : Room) : Building Unit := if Room.limit < r.bytes then failure else set r

def state (edges : Nat) : Building Nat := do
  let r ← get
  check ⟨r.states + 1,r.listBytes + Room.edgeBytes * edges⟩
  return r.states

def branch : Building Unit := do
  let r ← get
  check { r with listBytes := r.listBytes + Room.freeEdgeBytes }

def follow (p : Piece) : Building Unit := if p.branches then branch else return

def single : Building Piece := do
  let n ← state 0
  return ⟨n,n,false⟩

def join (p q : Piece) : Building Piece := do
  follow p
  return ⟨p.first,q.last,q.branches⟩

-- A key takes the place of the one that was in its slot before.
abbrev Shared (α : Type) := Std.HashMap Nat (α × Nat)

def mix (hash : UInt64) (n : Nat) : UInt64 := (hash ^^^ n.toUInt64) * 1099511628211

def slot (slots : Nat) (key : List Nat) : Nat :=
  (key.foldl mix 14695981039346656037).toNat % slots

def find? [BEq α] (table : Shared α) (slot : Nat) (key : α) : Option Nat :=
  match table[slot]? with
  | some (other,n) => if other == key then some n else none
  | none => none

structure Edge where
  low : Nat
  high : Nat
  target : Nat
  deriving BEq

def edgeState (table : Shared (List Edge)) (edges : List Edge) :
    Building (Nat × Shared (List Edge)) := do
  let slot := slot 10000 (edges.flatMap fun e => [e.low,e.high,e.target])
  match find? table slot edges with
  | some n => return (n,table)
  | none =>
    let n ← state edges.length
    return (n,table.insert slot (edges,n))

structure Growing where
  edges : List Edge
  pending : Option (Nat × Nat)

def Growing.settle (g : Growing) (target : Nat) : Growing :=
  match g.pending with
  | none => g
  | some (low,high) => ⟨⟨low,high,target⟩ :: g.edges,none⟩

def complete (keep target : Nat) (table : Shared (List Edge)) :
    List Growing → Building (List Growing × Shared (List Edge))
  | [] => return ([],table)
  | g :: rest =>
    if rest.length < keep then return (g.settle target :: rest,table)
    else do
      let (n,table) ← edgeState table (g.settle target).edges.reverse
      complete keep n table rest

def common (bytes : List (Nat × Nat)) (stack : List Growing) : Nat :=
  ((List.zip bytes stack.reverse).takeWhile fun (range,g) => g.pending == some range).length

def hang (bytes : List (Nat × Nat)) : List Growing → List Growing
  | [] => []
  | g :: rest =>
    match bytes with
    | [] => g :: rest
    | range :: more =>
      (more.map fun range => ⟨[],some range⟩).reverse ++ { g with pending := some range } :: rest

-- Codes that begin alike share their first states.
def forwardSet (ranges : CodeRanges) : Building Piece := do
  let target ← state 0
  let rec go (stack : List Growing) (table : Shared (List Edge)) :
      List (List (Nat × Nat)) → Building (List Growing × Shared (List Edge))
    | [] => complete 1 target table stack
    | bytes :: rest => do
      let shared := common bytes stack
      let (stack,table) ← complete (shared + 1) target table stack
      go (hang (bytes.drop shared) stack) table rest
  let (stack,table) ← go [⟨[],none⟩] ∅ (Utf8.sequences ranges)
  let (first,_) ← edgeState table ((stack.head?.map Growing.edges).getD []).reverse
  return ⟨first,target,false⟩

def backwardPath (table : Shared (List Nat)) (target : Nat) :
    List (Nat × Nat) → Building (Nat × Shared (List Nat))
  | [] => return (target,table)
  | (low,high) :: rest => do
    let key := [target,low,high]
    let slot := slot 1000 key
    match find? table slot key with
    | some n => backwardPath table n rest
    | none =>
      let n ← state 0
      backwardPath (table.insert slot (key,n)) n rest

-- Codes that begin alike share their last states.
def backwardSet (ranges : CodeRanges) : Building Piece := do
  let first ← state 0
  let target ← state 0
  let rec go (table : Shared (List Nat)) : List (List (Nat × Nat)) → Building Unit
    | [] => return
    | bytes :: rest => do
      let (_,table) ← backwardPath table target bytes
      branch
      go table rest
  go ∅ (Utf8.sequences ranges)
  return ⟨first,target,false⟩

def isAscii (ranges : CodeRanges) : Bool := ranges.all fun (_,high) => high ≤ 0x7F

def charSet (backward : Bool) (ranges : CodeRanges) : Building Piece := do
  if isAscii ranges then
    let last ← state 0
    let first ← state ranges.length
    return ⟨first,last,false⟩
  else if backward then backwardSet ranges
  else forwardSet ranges

def literalBytes (text : List Char) : List Nat := text.flatMap fun c => Utf8.encode c.toNat

def extend (one : Building Piece) : Nat → Piece → Building Piece
  | 0, p => return p
  | n + 1, p => do
    let q ← one
    extend one n (← join p q)

def exactly (one : Building Piece) : Nat → Building Piece
  | 0 => single
  | n + 1 => do extend one n (← one)

def anyNumber (idle : Bool) (one : Building Piece) : Building Piece := do
  if idle then
    let p ← one
    follow p
    let _ ← state 0
    let first ← state 0
    let last ← state 0
    branch
    branch
    branch
    branch
    return ⟨first,last,false⟩
  else
    let n ← state 0
    follow (← one)
    branch
    return ⟨n,n,true⟩

def again (p : Piece) : Building Piece := do
  follow p
  let n ← state 0
  branch
  return ⟨p.first,n,true⟩

def optional (one : Building Piece) : Building Piece := do
  let first ← state 0
  let p ← one
  let last ← state 0
  branch
  branch
  follow p
  return ⟨first,last,false⟩

def upTo (one : Building Piece) (last : Nat) : Nat → Piece → Building Piece
  | 0, p => do
    follow p
    return ⟨p.first,last,false⟩
  | n + 1, p => do
    let _ ← state 0
    let q ← one
    branch
    branch
    upTo one last n (← join p q)

def repetition (idle : Bool) (one : Building Piece) (least : Nat) :
    Option Nat → Building Piece
  | none =>
    match least with
    | 0 => anyNumber idle one
    | 1 => do again (← one)
    | least => do
      let p ← exactly one (least - 1)
      again (← join p (← one))
  | some most =>
    if least = 0 ∧ most = 1 then optional one
    else do
      let p ← exactly one least
      if least = most then return p
      else upTo one (← state 0) (most - least) p

def captured (one : Building Piece) : Building Piece := do
  let first ← state 0
  let p ← one
  let last ← state 0
  follow p
  return ⟨first,last,false⟩

def sequence : List (Building Piece) → Building Piece
  | [] => single
  | one :: rest => do rest.foldlM (fun p next => do join p (← next)) (← one)

def branching : List (Building Piece) → Building Piece
  | [] => single
  | [one] => one
  | one :: two :: rest => do
    let p ← one
    let q ← two
    let first ← state 0
    let last ← state 0
    for piece in [p,q] do
      branch
      follow piece
    for next in rest do
      let piece ← next
      branch
      follow piece
    return ⟨first,last,false⟩

-- Behind each group but the last, the word itself is one of the words.
inductive Trie where
  | node (groups : List (List (Nat × Trie))) (latest : List (Nat × Trie))

namespace Trie

def empty : Trie := .node [] []

def isLeaf : Trie → Bool
  | .node groups latest => groups.all List.isEmpty && latest.isEmpty

def close : Trie → Trie
  | .node groups latest =>
    if latest.isEmpty && groups.all List.isEmpty && !groups.isEmpty then .node groups latest
    else .node (groups ++ [latest]) []

def place (n : Nat) (t : Trie) : List (Nat × Trie) → List (Nat × Trie)
  | [] => [(n,t)]
  | (m,u) :: rest =>
    if n < m then (n,t) :: (m,u) :: rest
    else if n = m then (n,t) :: rest
    else (m,u) :: place n t rest

def insert : List Nat → Trie → Trie
  | [], t => t.close
  | n :: word, .node groups latest =>
    .node groups (place n (insert word ((latest.lookup n).getD empty)) latest)

mutual

def build : Trie → Building Nat
  | .node groups latest => do
    let before ← buildGroups groups
    let after ← buildGroup latest
    let n ← state 0
    let rec branches : Nat → Building Unit
      | 0 => return
      | k + 1 => do
        branch
        branches k
    branches (before + after)
    return n

def buildGroups : List (List (Nat × Trie)) → Building Nat
  | [] => return 0
  | group :: rest => do
    let here ← buildGroup group
    return here + 1 + (← buildGroups rest)

def buildGroup : List (Nat × Trie) → Building Nat
  | [] => return 0
  | (n,t) :: rest => do
    buildBranches ((n,t) :: rest)
    let _ ← state (if rest.isEmpty then 0 else rest.length + 1)
    return 1

def buildBranches : List (Nat × Trie) → Building Unit
  | [] => return
  | (_,t) :: rest => do
    if !t.isLeaf then let _ ← t.build
    buildBranches rest

end

end Trie

def literal? : Matcher → Option (List Nat)
  | .literal text => some (literalBytes text)
  | _ => none

def words (backward : Bool) (texts : List (List Nat)) : Building Piece := do
  let last ← state 0
  let trie := texts.foldl (fun t text => t.insert (if backward then text.reverse else text))
    Trie.empty
  let first ← trie.build
  return ⟨first,last,false⟩

end Building

namespace Matcher

open Building

mutual

-- Only the automaton that reads forwards keeps what its groups capture.
def build (backward : Bool) : Matcher → Building Piece
  | .empty | .look _ _ => single
  | .literal text => sequence ((literalBytes text).map fun _ => single)
  | .set ranges => charSet backward ranges
  | .capture body => if backward then body.build backward else captured (body.build backward)
  | .repeated least most body =>
    repetition (!body.minLength?.any (0 < ·)) (body.build backward) least most
  | .seq items =>
    let parts := buildAll backward items
    sequence (if backward then parts.reverse else parts)
  | .choice items =>
    match items.mapM literal? with
    | some texts => words backward texts
    | none => branching (buildAll backward items)

def buildAll (backward : Bool) : List Matcher → List (Building Piece)
  | [] => []
  | m :: rest => m.build backward :: buildAll backward rest

end

def isIdle (m : Matcher) : Bool := m.maxLength? == some 0

mutual

def startsText : Matcher → Bool
  | .look kind flags => kind.isTextStart flags
  | .capture body => body.startsText
  | .repeated least _ body => 0 < least && body.startsText
  | .seq items => startTexts items
  | .choice items => startText items
  | .empty | .literal _ | .set _ => false

def startTexts : List Matcher → Bool
  | [] => false
  | m :: rest => m.startsText || m.isIdle && startTexts rest

def startText : List Matcher → Bool
  | [] => true
  | m :: rest => m.startsText && startText rest

end

mutual

def endsText : Matcher → Bool
  | .look kind flags => kind.isTextEnd flags
  | .capture body => body.endsText
  | .repeated least _ body => 0 < least && body.endsText
  | .seq items => endTexts items
  | .choice items => endText items
  | .empty | .literal _ | .set _ => false

def endTexts : List Matcher → Bool
  | [] => false
  | m :: rest => endTexts rest || rest.all isIdle && m.endsText

def endText : List Matcher → Bool
  | [] => true
  | m :: rest => m.endsText && endText rest

end

def buildWhole (backward : Bool) (m : Matcher) : Building Unit := do
  let anchored := if backward then m.endsText else m.startsText
  let start : Piece ← if anchored then single else anyNumber false (charSet false [(0,0x7F)])
  let body := m.build backward
  let p ← if backward then body else captured body
  let _ ← state 0
  follow p
  follow start

def fits (m : Matcher) : Bool :=
  ((m.buildWhole false).run ⟨0,0⟩).isSome && ((m.buildWhole true).run ⟨0,0⟩).isSome

end Matcher
end CnfSearch.Pattern
