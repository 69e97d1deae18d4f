import CnfSearch.Pattern.Flags

namespace CnfSearch.Pattern

open Unicode

inductive Matcher where
  | empty
  | literal (text : List Char)
  | set (ranges : CodeRanges)
  | look (kind : Look) (flags : Flags)
  | capture (body : Matcher)
  | repeated (least : Nat) (most : Option Nat) (body : Matcher)
  | seq (items : List Matcher)
  | choice (items : List Matcher)

namespace Matcher

mutual

-- A set of no characters leaves the length open.
def minLength? : Matcher → Option Nat
  | .empty | .look _ _ => some 0
  | .literal text => some text.length
  | .set ranges => if ranges.isEmpty then none else some 1
  | .capture body => body.minLength?
  | .repeated least _ body => body.minLength?.map (least * ·)
  | .seq items => minLengthAll? items
  | .choice items => minLengthAny? items

def minLengthAll? : List Matcher → Option Nat
  | [] => some 0
  | m :: rest => do return (← m.minLength?) + (← minLengthAll? rest)

def minLengthAny? : List Matcher → Option Nat
  | [] => none
  | [m] => m.minLength?
  | m :: rest => do return min (← m.minLength?) (← minLengthAny? rest)

end

mutual

def maxLength? : Matcher → Option Nat
  | .empty | .look _ _ => some 0
  | .literal text => some text.length
  | .set ranges => if ranges.isEmpty then none else some 1
  | .capture body => body.maxLength?
  | .repeated _ most body => do return (← most) * (← body.maxLength?)
  | .seq items => maxLengthAll? items
  | .choice items => maxLengthAny? items

def maxLengthAll? : List Matcher → Option Nat
  | [] => some 0
  | m :: rest => do return (← m.maxLength?) + (← maxLengthAll? rest)

def maxLengthAny? : List Matcher → Option Nat
  | [] => none
  | [m] => m.maxLength?
  | m :: rest => do return max (← m.maxLength?) (← maxLengthAny? rest)

end

def ofRanges (ranges : CodeRanges) : Matcher :=
  match ranges.diff .surrogates with
  | [(low,high)] => if low = high then .literal [Char.ofNat low] else .set [(low,high)]
  | ranges => .set ranges

def parts : Matcher → List Matcher
  | .empty => []
  | .seq items => items
  | m => [m]

def joinLiterals : List Matcher → List Matcher
  | [] => []
  | .literal text :: rest =>
    match joinLiterals rest with
    | .literal more :: others => .literal (text ++ more) :: others
    | others => .literal text :: others
  | m :: rest => m :: joinLiterals rest

def ofSequence (items : List Matcher) : Matcher :=
  match joinLiterals (items.flatMap parts) with
  | [] => .empty
  | [m] => m
  | items => .seq items

def alternatives : Matcher → List Matcher
  | .choice items => items
  | m => [m]

def character? : Matcher → Option Char
  | .literal [c] => some c
  | _ => none

def ranges? : Matcher → Option CodeRanges
  | .set ranges => some ranges
  | _ => none

def ofBranches (items : List Matcher) : Matcher :=
  match items.flatMap alternatives with
  | [] => .set []
  | [m] => m
  | items =>
    match items.mapM character?, items.mapM ranges? with
    | some characters, _ => ofRanges (.ofList (characters.map fun c => (c.toNat,c.toNat)))
    | _, some sets => ofRanges (.unions sets)
    | none, none => .choice items

def ofRepetition (least : Nat) (most : Option Nat) (body : Matcher) : Matcher :=
  let idle := body.maxLength? == some 0
  let least := if idle then min least 1 else least
  let most := if idle then some (min (most.getD 1) 1) else most
  if most = some 0 then .empty
  else if least = 1 ∧ most = some 1 then body
  else .repeated least most body

end Matcher

abbrev Places := List Bool

namespace Places

def union (a b : Places) : Places := List.zipWith (· || ·) a b

def advance (text : List Char) (accepts : Char → Bool) (places : Places) : Places :=
  false :: List.zipWith (fun here c => here && accepts c) places text

def neighbours (text : List Char) : List (Option Char × Option Char) :=
  List.zip (none :: text.map some) (text.map some ++ [none])

def keep (text : List Char) (holds : Option Char → Option Char → Bool) (places : Places) :
    Places :=
  List.zipWith (fun here (before,after) => here && holds before after) places (neighbours text)

def iterate (step : Places → Places) : Nat → Places → Places
  | 0, places => places
  | n + 1, places =>
    let after := step places
    if after == places then places else iterate step n after

end Places

namespace Matcher

mutual

-- A step that is taken more often than there are places has been idle at least once.
def reach (text : List Char) : Matcher → Places → Places
  | .empty, places => places
  | .literal letters, places =>
    letters.foldl (fun places c => places.advance text (· == c)) places
  | .set ranges, places => places.advance text fun c => ranges.contains c.toNat
  | .look kind flags, places => places.keep text (kind.holds flags)
  | .capture body, places => body.reach text places
  | .repeated least most body, places =>
    let limit := text.length + 1
    let start := Places.iterate (body.reach text) (min least limit) places
    let more := match most with
      | none => limit
      | some most => min (most - least) limit
    Places.iterate (fun reached => reached.union (body.reach text reached)) more start
  | .seq items, places => reachAll text items places
  | .choice items, places => reachAny text items places

def reachAll (text : List Char) : List Matcher → Places → Places
  | [], places => places
  | m :: rest, places => reachAll text rest (m.reach text places)

def reachAny (text : List Char) : List Matcher → Places → Places
  | [], places => places.map fun _ => false
  | m :: rest, places => (m.reach text places).union (reachAny text rest places)

end

def isIn (m : Matcher) (text : List Char) : Bool :=
  (m.reach text (List.replicate (text.length + 1) true)).any (·)

end Matcher
end CnfSearch.Pattern
