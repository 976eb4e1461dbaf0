-- Universally unique identifiers and their canonical spelling.
import Workspaces.Json.Text

namespace Workspaces

/-- An identifier of 128 bits. -/
structure Uuid where
  bits : BitVec 128
  deriving DecidableEq, Repr

namespace Uuid

/-- The identifier whose bits are all zero. -/
def nil : Uuid := ⟨0⟩

instance : Inhabited Uuid := ⟨nil⟩

/-- The identifiers in ascending order: that of their bits, highest first, and so that of their
canonical spellings. -/
instance : LE Uuid := ⟨fun a b => a.bits ≤ b.bits⟩

instance (a b : Uuid) : Decidable (a ≤ b) := inferInstanceAs (Decidable (a.bits ≤ b.bits))

/-! ## Spelling -/

/-- The value of hexadecimal digits, the highest first. -/
def hexValue? (digits : Octets) : Option Nat :=
  digits.foldl (fun n b => do return 16 * (← n) + (← Octets.hexDigit? b)) (some 0)

/-- The hexadecimal digits of a number, `count` of them. -/
def hexChars : (count : Nat) → Nat → List Char
  | 0, _ => []
  | count + 1, n => Json.hexChar (n >>> (4 * count) % 16) :: hexChars count n

/-- The canonical spelling: small digits in groups of 8, 4, 4, 4 and 12. -/
def chars (u : Uuid) : List Char :=
  let digits := hexChars 32 u.bits.toNat
  digits.take 8 ++ '-' :: ((digits.drop 8).take 4 ++ '-' :: ((digits.drop 12).take 4 ++
    '-' :: ((digits.drop 16).take 4 ++ '-' :: digits.drop 20)))

def text (u : Uuid) : String := String.ofList u.chars

end Uuid

end Workspaces
