-- The text of a binary floating-point number: the fewest digits that identify it.
import Workspaces.Binary64.Basic

namespace Workspaces

namespace Binary64

/-! ## Which digits -/

/-- Compares `a * 10 ^ i` with `n * 2 ^ j`. -/
def compareScaled (a : Nat) (i : Int) (n : Nat) (j : Int) : Ordering :=
  compare ((a * Decimal.power i.toNat) <<< (-j).toNat) ((n * Decimal.power (-i).toNat) <<< j.toNat)

/-- Whether a decimal lies among the reals that round to the size of `x`. They reach halfway to
the neighbour on each side, with the ends if the significand is even; just above a power of two
the neighbour below is half as far away. -/
def identifies (x : Binary64) (d : Decimal) : Bool :=
  let m := x.significand
  let low := if m = 1 <<< 52 ∧ -1074 < x.exponent then 4 * m - 1 else 4 * m - 2
  let ends := m % 2 = 0
  let below := compareScaled d.digits d.exponent low (x.exponent - 2)
  let above := compareScaled d.digits d.exponent (4 * m + 2) (x.exponent - 2)
  (below = .gt || (ends && below = .eq)) && (above = .lt || (ends && above = .eq))

/-- The least `k` such that the size of a positive number is below `10 ^ k`. -/
def scale (x : Binary64) : Int :=
  let (n, d) := x.fraction
  if d ≤ n then ((Nat.toDigits 10 (n / d)).length : Int)
  else 1 - ((Nat.toDigits 10 ((d + n - 1) / n - 1)).length : Int)

/-- The decimal of a given last place that is nearest to the number, of the two around it that
identify it; the even one on a tie. -/
def decimalAt? (x : Binary64) (place : Int) : Option Decimal :=
  let (n, d) := x.fraction
  let n := n * Decimal.power (-place).toNat
  let d := d * Decimal.power place.toNat
  let low := n / d
  match x.identifies ⟨low, place⟩, x.identifies ⟨low + 1, place⟩ with
  | true, true =>
    match compare (2 * n) ((2 * low + 1) * d) with
    | .lt => some ⟨low, place⟩
    | .gt => some ⟨low + 1, place⟩
    | .eq => some ⟨if low % 2 = 0 then low else low + 1, place⟩
  | true, false => some ⟨low, place⟩
  | false, true => some ⟨low + 1, place⟩
  | false, false => none

/-- The decimal of fewest digits that identifies a positive number. Seventeen digits are always
enough; the exact value stands behind the search only to make it total. -/
def shortest (x : Binary64) : Decimal :=
  let found := (List.range' 1 17).findSome? fun (n : Nat) => x.decimalAt? (x.scale - n)
  .dropZeros 20 <| found.getD
    ⟨(x.significand * Nat.pow 5 (-x.exponent).toNat) <<< x.exponent.toNat, min x.exponent 0⟩

/-! ## How they are laid out -/

/-- The text of a number: positional from `0.00001` up to below `10 ^ 16`, otherwise with an
exponent. A positional text always has a point. -/
def write (x : Binary64) : List Char :=
  let sign := if x.negative then ['-'] else []
  if x.significand = 0 then sign ++ ['0', '.', '0']
  else
    let d := x.shortest
    let digits := Nat.toDigits 10 d.digits
    let point := (digits.length : Int) + d.exponent
    let body :=
      if 0 ≤ d.exponent ∧ point ≤ 16 then
        digits ++ List.replicate d.exponent.toNat '0' ++ ['.', '0']
      else if 0 < point ∧ point ≤ 16 then
        digits.take point.toNat ++ '.' :: digits.drop point.toNat
      else if -5 < point ∧ point ≤ 0 then
        '0' :: '.' :: List.replicate point.natAbs '0' ++ digits
      else
        let power := point - 1
        digits.take 1 ++ (if digits.length = 1 then [] else '.' :: digits.drop 1) ++
          'e' :: (if power < 0 then '-' else '+') :: Nat.toDigits 10 power.natAbs
    sign ++ body

end Binary64

end Workspaces
