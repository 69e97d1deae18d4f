import CnfSearch.Pattern.Node
import CnfSearch.Pattern.Flaw
import CnfSearch.Unicode.PropertyName

namespace CnfSearch.Pattern

open Unicode

def SetName.narrow : SetName → CodeRanges
  | .digit => .ofText "30-39"
  | .space => .ofText "9-D 20"
  | .word => .ofText "30-39 41-5A 5F 61-7A"
  | .alnum => .ofText "30-39 41-5A 61-7A"
  | .alpha => .ofText "41-5A 61-7A"
  | .ascii => .ofText "0-7F"
  | .blank => .ofText "9 20"
  | .cntrl => .ofText "0-1F 7F"
  | .graph => .ofText "21-7E"
  | .lower => .ofText "61-7A"
  | .print => .ofText "20-7E"
  | .punct => .ofText "21-2F 3A-40 5B-60 7B-7E"
  | .upper => .ofText "41-5A"
  | .xdigit => .ofText "30-39 41-46 61-66"

-- The sets of one letter are wider where the text is Unicode.
def SetName.wide : SetName → CodeRanges
  | .digit => Category.decimalNumber.ranges
  | .space => ListedProperty.whiteSpace.ranges
  | .word => DerivedProperty.word
  | name => name.narrow

namespace Property

def normalize (name : List Char) : String :=
  let (body,hasIs) := match name with
    | i :: s :: rest =>
      if i.toLower = 'i' ∧ s.toLower = 's' then (rest,true) else (name,false)
    | _ => (name,false)
  let kept := (body.filter fun c => c.toNat < 128 && !" _-".toList.contains c).map Char.toLower
  if hasIs ∧ kept = ['c'] then "isc" else String.ofList kept

-- Three names that are short for a property are taken for a category.
def findNamed (name : String) : Except Flaw CodeRanges :=
  if isPropertyName name && !(["cf","sc","lc"].contains name) then
    match property? name with
    | some ranges => .ok ranges
    | none => .error .propertyUnknown
  else if emptyNames.contains name then .error .propertyValueUnknown
  else
    match (category? name).or ((Script.find? name).map Script.ranges) with
    | some ranges => .ok ranges
    | none => .error .propertyUnknown

def find : Property → Except Flaw CodeRanges
  | .named name => findNamed (normalize name)
  | .valued name value =>
    let name := normalize name
    if !isPropertyName name then .error .propertyUnknown
    else
      match (ValuedProperty.named? name).bind (·.value? (normalize value)) with
      | some ranges => .ok ranges
      | none => .error .propertyValueUnknown

end Property
end CnfSearch.Pattern
