import CnfSearch.Word

namespace CnfSearch.Text

inductive NumeralError where
  | empty
  | invalidDigit
  | tooLarge
  deriving DecidableEq

namespace Numeral

def digit? (c : Char) : Option Nat :=
  if c.isDigit then some (c.toNat - '0'.toNat) else none

-- The first character that is no digit, or that takes the value to the limit, settles the error;
-- one that is no digit is never blamed for the size.
def digits (limit value : Nat) : List Char → Except NumeralError Nat
  | [] => .ok value
  | c :: rest =>
    match digit? c with
    | none => .error .invalidDigit
    | some d =>
      if 10 * value + d < limit then digits limit (10 * value + d) rest
      else .error .tooLarge

-- A natural number that is a word: an optional plus sign and at least one digit.
def natural : List Char → Except NumeralError Nat
  | [] => .error .empty
  | ['+'] => .error .invalidDigit
  | '+' :: rest => digits Word.bound 0 rest
  | text => digits Word.bound 0 text

def integer? : List Char → Option Int
  | [] | ['+'] | ['-'] => none
  | '-' :: rest => (digits (Word.bound / 2 + 1) 0 rest).toOption.map fun n => -(n : Int)
  | '+' :: rest => (digits (Word.bound / 2) 0 rest).toOption.map Int.ofNat
  | text => (digits (Word.bound / 2) 0 text).toOption.map Int.ofNat

def ofNat (n : Nat) : List Char := Nat.toDigits 10 n

end Numeral
end CnfSearch.Text
