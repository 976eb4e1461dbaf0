-- Binary floating-point numbers of 64 bits, finite ones only, by exact arithmetic: every
-- operation is the exact result rounded once, to the nearest number and to even on a tie.
import Workspaces.Decimal

namespace Workspaces

/-- A finite number `± significand * 2 ^ exponent`. The significand is below `2 ^ 53`, the
exponent runs from -1074 to 971, and below `2 ^ 52` the exponent is the least one. -/
structure Binary64 where
  negative : Bool
  significand : Nat
  exponent : Int
  deriving DecidableEq, Repr

namespace Binary64

/-- The zero of a sign. -/
def zero (negative : Bool) : Binary64 := ⟨negative, 0, -1074⟩

/-- The size of the number as an exact fraction, numerator and denominator. -/
def fraction (x : Binary64) : Nat × Nat :=
  (x.significand <<< x.exponent.toNat, 1 <<< (-x.exponent).toNat)

/-! ## Rounding -/

/-- The integer nearest to a fraction, the even one on a tie. -/
def nearest (n d : Nat) : Nat :=
  let q := n / d
  match compare (2 * (n % d)) d with
  | .lt => q
  | .gt => q + 1
  | .eq => if q % 2 = 0 then q else q + 1

/-- The exponent at which a positive fraction has a significand of 53 bits, or the least one. -/
def exponentFor (n d : Nat) : Int :=
  let e : Int := (n.log2 : Int) - d.log2 - 53
  let e := if d <<< (53 + e.toNat) ≤ n <<< (-e).toNat then e + 1 else e
  max e (-1074)

/-- The number nearest to a fraction, the one with an even significand on a tie; none if the
fraction is too large to have one. -/
def ofFraction? (negative : Bool) (n d : Nat) : Option Binary64 :=
  if n = 0 then some (zero negative)
  else
    let e := exponentFor n d
    let m := nearest (n <<< (-e).toNat) (d <<< e.toNat)
    let x : Binary64 := if m = 1 <<< 53 then ⟨negative, 1 <<< 52, e + 1⟩ else ⟨negative, m, e⟩
    if x.exponent ≤ 971 then some x else none

/-! ## Powers of ten -/

/-- The number times a power of ten of at most 308, itself rounded; none on overflow. -/
def timesPower? (x : Binary64) (k : Nat) : Option Binary64 := do
  let p ← ofFraction? false (Decimal.power k) 1
  ofFraction? x.negative (x.fraction.1 * p.fraction.1) (x.fraction.2 * p.fraction.2)

/-- The number divided by a power of ten of at most 308, itself rounded. -/
def overPower (x : Binary64) (k : Nat) : Binary64 :=
  (do
    let p ← ofFraction? false (Decimal.power k) 1
    ofFraction? x.negative (x.fraction.1 * p.fraction.2) (x.fraction.2 * p.fraction.1)).getD
      (zero x.negative)

/-- What a decimal numeral `± n * 10 ^ k` is read as; none on overflow. The integer `n` and the
power of ten are each rounded, and then their product or quotient, so the result need not be
the number nearest to the numeral. A division by more than `10 ^ 308` takes a step of that size
at a time, and after four such steps only zero is left. -/
def ofDecimal? (negative : Bool) (n : Nat) (k : Int) : Option Binary64 := do
  let x ← ofFraction? negative n 1
  if 308 < k then
    if n = 0 then some x else none
  else if 0 ≤ k then x.timesPower? k.toNat
  else
    let steps := (k.natAbs - 1) / 308
    some ((Nat.repeat (·.overPower 308) (min steps 4) x).overPower (k.natAbs - 308 * steps))

end Binary64

end Workspaces
