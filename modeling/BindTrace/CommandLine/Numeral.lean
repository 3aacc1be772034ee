/-!
# Reading whole numbers

A numeral is an optional plus sign and decimal digits.  It is read from left to right, so of two
faults the one further left is reported.
-/

namespace BindTrace

inductive NumeralError where
  | empty
  | invalidDigit
  | tooLarge
deriving DecidableEq, Repr

namespace NumeralError

def text : NumeralError → String
  | empty => "cannot parse integer from empty string"
  | invalidDigit => "invalid digit found in string"
  | tooLarge => "number too large to fit in target type"

end NumeralError

namespace Numeral

def digit? (c : Char) : Option Nat :=
  if '0' ≤ c ∧ c ≤ '9' then some (c.toNat - 48) else none

/-- Reads further digits after a number below 2 to the 64th. -/
def readDigits (number : Nat) : List Char → Except NumeralError Nat
  | [] => .ok number
  | c :: rest =>
      match digit? c with
      | none => .error .invalidDigit
      | some digit =>
          let longer := 10 * number + digit
          if longer < 18446744073709551616 then readDigits longer rest
          else .error .tooLarge

def read : List Char → Except NumeralError Nat
  | [] => .error .empty
  | '+' :: [] => .error .invalidDigit
  | '+' :: rest => readDigits 0 rest
  | digits => readDigits 0 digits

def ofString (text : String) : Except NumeralError UInt64 :=
  (read text.toList).map UInt64.ofNat

end Numeral

end BindTrace
