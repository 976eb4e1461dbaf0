-- Percent-encoded octets, as paths and query strings carry them.
import Workspaces.Text.Octets

namespace Workspaces.Percent

/-- Decodes onto the octets already decoded, which stand newest first. A percent sign that two
hexadecimal digits do not follow stands for itself. -/
def decodeOnto (done : Octets) : Octets → Octets
  | [] => done.reverse
  | a :: b :: c :: rest =>
    if Octets.char a = '%' then
      match Octets.hexDigit? b, Octets.hexDigit? c with
      | some x, some y => decodeOnto (UInt8.ofNat (16 * x + y) :: done) rest
      | _, _ => decodeOnto (a :: done) (b :: c :: rest)
    else decodeOnto (a :: done) (b :: c :: rest)
  | a :: rest => decodeOnto (a :: done) rest

/-- The octets that a percent-encoded run stands for. -/
def decode (t : Octets) : Octets := decodeOnto [] t

/-! ## Forms -/

/-- The octets that a name or a value of a form stands for: there a plus sign is a space. -/
def decodeForm (t : Octets) : Octets :=
  decode (t.map fun b => if Octets.char b = '+' then 0x20 else b)

/-- The names and values of a form, in order. Empty pieces count for nothing, and a piece
without an equals sign is a name with an empty value. -/
def form (t : Octets) : List (Octets × Octets) :=
  ((t.splitOn 0x26).filter (· ≠ [])).map fun piece =>
    (decodeForm (piece.takeWhile (· ≠ 0x3D)), decodeForm ((piece.dropWhile (· ≠ 0x3D)).drop 1))

end Workspaces.Percent
