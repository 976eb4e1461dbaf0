-- Decimal numerals of the fixed-width integer types, and why a text is none.
import Workspaces.Integer.Range
import Workspaces.Text.Octets

namespace Workspaces

/-- Why a text is no numeral of a type. -/
inductive NumeralFault where
  | empty
  | invalidDigit
  | tooLarge
  | tooSmall
  deriving DecidableEq, Repr

namespace NumeralFault

def message : NumeralFault → String
  | empty => "cannot parse integer from empty string"
  | invalidDigit => "invalid digit found in string"
  | tooLarge => "number too large to fit in target type"
  | tooSmall => "number too small to fit in target type"

end NumeralFault

namespace Numeral

/-- Reads digits onto the number already read. A digit is looked at before the room for it, so
the first thing wrong from the left is what is reported. -/
def digitsOnto (bound : Nat) (excess : NumeralFault) (n : Nat) : Octets → Except NumeralFault Nat
  | [] => .ok n
  | b :: rest =>
    match Octets.digit? b with
    | none => .error .invalidDigit
    | some d =>
      if bound < 10 * n + d then .error excess else digitsOnto bound excess (10 * n + d) rest

/-- Reads an integer: a sign and at least one digit, all of it in range. A minus sign is one only
where the range has negative integers. -/
def read (range : IntegerRange) (t : Octets) : Except NumeralFault Int :=
  match t with
  | [] => .error .empty
  | b :: rest =>
    if Octets.char b = '+' ∧ rest ≠ [] then
      (digitsOnto range.greatest .tooLarge 0 rest).map Int.ofNat
    else if Octets.char b = '-' ∧ rest ≠ [] ∧ range.least < 0 then
      (digitsOnto range.least.natAbs .tooSmall 0 rest).map (fun n => -Int.ofNat n)
    else (digitsOnto range.greatest .tooLarge 0 t).map Int.ofNat

/-- The numeral of an integer: a minus sign if it is negative, and its digits. -/
def write (n : Int) : List Char :=
  if n < 0 then '-' :: Nat.toDigits 10 n.natAbs else Nat.toDigits 10 n.natAbs

end Numeral

end Workspaces
