-- Text as octets: the UTF-8 form of a text and the reading back of one.

namespace Workspaces

/-- Text as it travels: a run of octets that need not be well-formed UTF-8. -/
abbrev Octets := List UInt8

namespace Octets

/-! ## Writing -/

/-- The UTF-8 form of a run of characters. -/
def ofChars (cs : List Char) : Octets := cs.flatMap String.utf8EncodeChar

/-- The UTF-8 form of a text. -/
def ofString (s : String) : Octets := ofChars s.toList

/-! ## Reading -/

/-- The six payload bits of a continuation octet `10xxxxxx`. -/
def continuation? (b : UInt8) : Option Nat :=
  if 0x80 ≤ b ∧ b < 0xC0 then some (b.toNat - 0x80) else none

/-- The character of a code point, if the code point is no surrogate, is in range and is not
small enough for a shorter form. -/
def scalar? (least code : Nat) : Option Char :=
  if h : code.isValidChar ∧ least ≤ code then some (Char.ofNatAux code h.1) else none

/-- Reads the octets onto the characters already read, which stand newest first. -/
def charsOnto (done : List Char) : Octets → Option (List Char)
  | [] => some done.reverse
  | a :: rest =>
    if a < 0x80 then charsOnto (Char.ofUInt8 a :: done) rest
    else if a < 0xC0 then none
    else if a < 0xE0 then
      match rest with
      | b :: rest =>
        match continuation? b with
        | some y =>
          match scalar? 0x80 ((a.toNat - 0xC0) * 64 + y) with
          | some c => charsOnto (c :: done) rest
          | none => none
        | none => none
      | [] => none
    else if a < 0xF0 then
      match rest with
      | b :: c :: rest =>
        match continuation? b, continuation? c with
        | some y, some z =>
          match scalar? 0x800 (((a.toNat - 0xE0) * 64 + y) * 64 + z) with
          | some c => charsOnto (c :: done) rest
          | none => none
        | _, _ => none
      | _ => none
    else if a < 0xF8 then
      match rest with
      | b :: c :: d :: rest =>
        match continuation? b, continuation? c, continuation? d with
        | some x, some y, some z =>
          match scalar? 0x10000 ((((a.toNat - 0xF0) * 64 + x) * 64 + y) * 64 + z) with
          | some c => charsOnto (c :: done) rest
          | none => none
        | _, _, _ => none
      | _ => none
    else none

/-- The characters whose UTF-8 form the octets are; none if they are nobody's. -/
def chars? (t : Octets) : Option (List Char) := charsOnto [] t

/-- The text whose UTF-8 form the octets are; none if they are nobody's. -/
def text? (t : Octets) : Option String := (chars? t).map String.ofList

/-! ## ASCII -/

/-- The octet as the character of the same number. Only those below 128 stand for themselves
in UTF-8; the others are never compared with an ASCII character by mistake. -/
def char (b : UInt8) : Char := Char.ofUInt8 b

/-- An ASCII letter in its small form, any other octet as it is. -/
def lower (b : UInt8) : UInt8 := if 0x41 ≤ b ∧ b ≤ 0x5A then b + 0x20 else b

/-- The value of a decimal digit. -/
def digit? (b : UInt8) : Option Nat :=
  if 0x30 ≤ b ∧ b ≤ 0x39 then some (b.toNat - 0x30) else none

/-- The value of a hexadecimal digit of either case. -/
def hexDigit? (b : UInt8) : Option Nat :=
  if 0x30 ≤ b ∧ b ≤ 0x39 then some (b.toNat - 0x30)
  else if 0x41 ≤ b ∧ b ≤ 0x46 then some (b.toNat - 0x41 + 10)
  else if 0x61 ≤ b ∧ b ≤ 0x66 then some (b.toNat - 0x61 + 10)
  else none

end Octets

end Workspaces
