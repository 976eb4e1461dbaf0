-- The leaves of JSON text: blanks, words, strings and numbers, each taken from the front of the
-- octets.
import Workspaces.Json.Stop

namespace Workspaces.Json

/-! ## Blanks and words -/

/-- Whether the octet is one of the four blanks of JSON. -/
def isBlank (b : UInt8) : Bool := b = 0x20 || b = 0x0A || b = 0x09 || b = 0x0D

def skipBlanks (t : Octets) : Octets := t.dropWhile isBlank

/-- Takes the rest of a word whose first letter was taken. -/
def takeWord : List Char → Octets → Except Stop Octets
  | [], t => .ok t
  | _ :: _, [] => .error (.after .endInValue [])
  | c :: cs, b :: rest =>
    if Octets.char b = c then takeWord cs rest else .error (.after .badWord rest)

/-! ## Strings -/

/-- The value of four hexadecimal digits. -/
def takeHex4 : Octets → Except Stop (Nat × Octets)
  | a :: b :: c :: d :: rest =>
    match Octets.hexDigit? a, Octets.hexDigit? b, Octets.hexDigit? c, Octets.hexDigit? d with
    | some w, some x, some y, some z => .ok (((w * 16 + x) * 16 + y) * 16 + z, rest)
    | _, _, _, _ => .error (.after .badEscape rest)
  | _ => .error (.after .endInString [])

/-- The octet that a one-letter escape stands for. -/
def letterEscape? (c : Char) : Option UInt8 :=
  match c with
  | '"' => some 0x22
  | '\\' => some 0x5C
  | '/' => some 0x2F
  | 'b' => some 0x08
  | 'f' => some 0x0C
  | 'n' => some 0x0A
  | 'r' => some 0x0D
  | 't' => some 0x09
  | _ => none

/-- The UTF-8 form of a code point that is no surrogate. -/
def codePoint (n : Nat) : Octets := String.utf8EncodeChar (Char.ofNat n)

/-- Takes the second half of a surrogate pair, of which `high` is the first. -/
def takeLowSurrogate (high : Nat) : Octets → Except Stop (Octets × Octets)
  | [] => .error (.after .endInString [])
  | [b] => if Octets.char b = '\\' then .error (.after .endInString [])
    else .error (.after .endInHexEscape [])
  | b :: c :: rest =>
    if Octets.char b ≠ '\\' then .error (.after .endInHexEscape (c :: rest))
    else if Octets.char c ≠ 'u' then .error (.after .endInHexEscape rest)
    else do
      let (low, rest) ← takeHex4 rest
      if 0xDC00 ≤ low ∧ low ≤ 0xDFFF then
        .ok (codePoint (0x10000 + (high - 0xD800) * 0x400 + (low - 0xDC00)), rest)
      else .error (.after .loneSurrogate rest)

/-- Takes an escape whose backslash was taken, and gives the octets it stands for. -/
def takeEscape : Octets → Except Stop (Octets × Octets)
  | [] => .error (.after .endInString [])
  | b :: rest =>
    match letterEscape? (Octets.char b) with
    | some octet => .ok ([octet], rest)
    | none =>
      if Octets.char b = 'u' then do
        let (n, rest) ← takeHex4 rest
        if 0xDC00 ≤ n ∧ n ≤ 0xDFFF then .error (.after .loneSurrogate rest)
        else if 0xD800 ≤ n ∧ n ≤ 0xDBFF then takeLowSurrogate n rest
        else .ok (codePoint n, rest)
      else .error (.after .badEscape rest)

/-- Takes the octets of a string up to and with its closing quote, onto those already read, which
stand newest first. Every turn takes an octet, so a text and one octet are turns enough. -/
def takeStringOnto : (turns : Octets) → Octets → Octets → Except Stop (Octets × Octets)
  | [], _, _ => .error (.after .endInString [])
  | _ :: _, _, [] => .error (.after .endInString [])
  | _ :: turns, done, b :: rest =>
    if Octets.char b = '"' then .ok (done.reverse, rest)
    else if Octets.char b = '\\' then
      match takeEscape rest with
      | .error stop => .error stop
      | .ok (octets, rest) => takeStringOnto turns (octets.reverse ++ done) rest
    else if b < 0x20 then .error (.after .controlCharacter rest)
    else takeStringOnto turns (b :: done) rest

/-- Takes a string whose opening quote was taken. -/
def takeString : Reader String := fun t => do
  let (octets, rest) ← takeStringOnto (0x22 :: t) [] t
  match Octets.text? octets with
  | some s => .ok (s, rest)
  | none => .error (.after .badUtf8 rest)

/-! ## Numbers -/

def isDigit (b : UInt8) : Bool := (Octets.digit? b).isSome

def skipDigits (t : Octets) : Octets := t.dropWhile isDigit

def startsWithDigit : Octets → Bool
  | b :: _ => isDigit b
  | [] => false

/-- Takes digits onto a number as long as there is room for them in 64 bits, and counts them. -/
def takeDigits (n count : Nat) : Octets → Nat × Nat × Octets
  | [] => (n, count, [])
  | b :: rest =>
    match Octets.digit? b with
    | none => (n, count, b :: rest)
    | some d =>
      if 10 * n + d ≤ (IntegerRange.unsigned 64).greatest then
        takeDigits (10 * n + d) (count + 1) rest
      else (n, count, b :: rest)

/-- A floating-point number from its decimal parts. -/
def floatOf (negative : Bool) (n : Nat) (power : Int) : Reader Number := fun t =>
  match Binary64.ofDecimal? negative n power with
  | some x => .ok (.float x, t)
  | none => .error (.after .numberTooLarge t)

/-- Takes the digits of an exponent onto the number already read. One for which there is no room in
32 bits makes zero of the number, or puts it out of range. -/
def takePower (negative : Bool) (n : Nat) (power : Int) (minus : Bool) (e : Nat) : Reader Number
  | [] => floatOf negative n (if minus then power - e else power + e) []
  | b :: rest =>
    match Octets.digit? b with
    | none => floatOf negative n (if minus then power - e else power + e) (b :: rest)
    | some d =>
      if 10 * e + d ≤ (IntegerRange.signed 32).greatest then
        takePower negative n power minus (10 * e + d) rest
      else if n ≠ 0 ∧ !minus then .error (.after .numberTooLarge rest)
      else .ok (.float (.zero negative), skipDigits rest)

/-- Takes an exponent whose letter was taken. -/
def takeExponent (negative : Bool) (n : Nat) (power : Int) : Reader Number := fun t =>
  let (minus, t) :=
    match t with
    | b :: rest =>
      if Octets.char b = '+' then (false, rest)
      else if Octets.char b = '-' then (true, rest)
      else (false, t)
    | [] => (false, t)
  match t with
  | [] => .error (.after .endInValue [])
  | b :: rest =>
    match Octets.digit? b with
    | none => .error (.after .badNumber rest)
    | some d => takePower negative n power minus d rest

/-- Takes the exponent if one follows. -/
def takeExponent? (negative : Bool) (n : Nat) (power : Int) : Reader Number := fun t =>
  match t with
  | b :: rest =>
    if Octets.char b = 'e' ∨ Octets.char b = 'E' then takeExponent negative n power rest
    else floatOf negative n power t
  | [] => floatOf negative n power []

/-- Takes the places after a decimal point that was taken. Those for which there is no room in
64 bits are dropped. -/
def takeFraction (negative : Bool) (n : Nat) (power : Int) : Reader Number := fun t =>
  let (m, count, rest) := takeDigits n 0 t
  if startsWithDigit rest then takeExponent? negative m (power - count) (skipDigits rest)
  else if count = 0 then
    .error (.ahead (if rest = [] then .endInValue else .badNumber) rest)
  else takeExponent? negative m (power - count) rest

/-- Takes what follows the integer digits `n`, of which `dropped` more found no room. -/
def takeNumberRest (negative : Bool) (n dropped : Nat) : Reader Number := fun t =>
  match t with
  | b :: rest =>
    if Octets.char b = '.' then takeFraction negative n dropped rest
    else if Octets.char b = 'e' ∨ Octets.char b = 'E' then takeExponent negative n dropped rest
    else whole t
  | [] => whole []
where
  /-- An integer in range stays one; minus zero and what is out of range do not. -/
  whole : Reader Number := fun t =>
    if 0 < dropped then floatOf negative n dropped t
    else if !negative then .ok (.integer n, t)
    else if n ≠ 0 ∧ (IntegerRange.signed 64).contains (-n) then .ok (.integer (-n), t)
    else floatOf true n 0 t

/-- Takes a number whose minus sign, if it has one, was taken. -/
def takeNumber (negative : Bool) : Reader Number
  | [] => .error (.after .endInValue [])
  | b :: rest =>
    match Octets.digit? b with
    | none => .error (.after .badNumber rest)
    | some 0 =>
      if startsWithDigit rest then .error (.ahead .badNumber rest)
      else takeNumberRest negative 0 0 rest
    | some d =>
      let (n, _, rest) := takeDigits d 1 rest
      takeNumberRest negative n (rest.takeWhile isDigit).length (skipDigits rest)

end Workspaces.Json
