-- Values that nobody asked for. They are passed over without being kept, however deep they are,
-- and only their form is looked at: not the range of a number, not the pairing of surrogates.
import Workspaces.Json.Scan

namespace Workspaces.Json

/-! ## Leaves -/

/-- Skips what follows the backslash of an escape. -/
def skipEscape : Octets → Except Stop Octets
  | [] => .error (.after .endInString [])
  | b :: rest =>
    if (letterEscape? (Octets.char b)).isSome then .ok rest
    else if Octets.char b = 'u' then (takeHex4 rest).map (·.2)
    else .error (.after .badEscape rest)

/-- Skips a string up to and with its closing quote. Every turn takes an octet, so a text and one
octet are turns enough. -/
def skipStringRest : (turns : Octets) → Octets → Except Stop Octets
  | [], _ => .error (.after .endInString [])
  | _ :: _, [] => .error (.after .endInString [])
  | _ :: turns, b :: rest =>
    if Octets.char b = '"' then .ok rest
    else if Octets.char b = '\\' then
      match skipEscape rest with
      | .error stop => .error stop
      | .ok rest => skipStringRest turns rest
    else if b < 0x20 then .error (.after .controlCharacter (b :: rest))
    else skipStringRest turns rest

/-- Skips a string whose opening quote was taken. -/
def skipString (t : Octets) : Except Stop Octets := skipStringRest (0x22 :: t) t

/-- Skips an exponent whose letter was taken. -/
def skipExponent (t : Octets) : Except Stop Octets :=
  let t :=
    match t with
    | b :: rest => if Octets.char b = '+' ∨ Octets.char b = '-' then rest else t
    | [] => t
  match t with
  | [] => .error (.after .badNumber [])
  | b :: rest => if isDigit b then .ok (skipDigits rest) else .error (.after .badNumber rest)

/-- Skips the exponent if one follows. -/
def skipExponent? (t : Octets) : Except Stop Octets :=
  match t with
  | b :: rest => if Octets.char b = 'e' ∨ Octets.char b = 'E' then skipExponent rest else .ok t
  | [] => .ok []

/-- Skips what follows the integer digits of a number. -/
def skipNumberRest (t : Octets) : Except Stop Octets :=
  match t with
  | b :: rest =>
    if Octets.char b = '.' then
      if startsWithDigit rest then skipExponent? (skipDigits rest)
      else .error (.ahead .badNumber rest)
    else skipExponent? t
  | [] => .ok []

/-- Skips a number whose minus sign, if it has one, was taken. -/
def skipNumber : Octets → Except Stop Octets
  | [] => .error (.after .badNumber [])
  | b :: rest =>
    match Octets.digit? b with
    | none => .error (.after .badNumber rest)
    | some 0 =>
      if startsWithDigit rest then .error (.ahead .badNumber rest) else skipNumberRest rest
    | some _ => skipNumberRest (skipDigits rest)

/-- Skips a value that is no list and no object. -/
def skipLeaf (b : UInt8) (rest : Octets) : Except Stop Octets :=
  match Octets.char b with
  | 'n' => takeWord ['u', 'l', 'l'] rest
  | 't' => takeWord ['r', 'u', 'e'] rest
  | 'f' => takeWord ['a', 'l', 's', 'e'] rest
  | '"' => skipString rest
  | '-' => skipNumber rest
  | _ => if isDigit b then skipNumber (b :: rest) else .error (.ahead .noValue (b :: rest))

/-! ## Lists and objects -/

/-- What an open bracket holds. -/
inductive Bracket where
  | list
  | object
  deriving DecidableEq, Repr

namespace Bracket

def close : Bracket → Char
  | list => ']'
  | object => '}'

/-- The flaw of a text that ends inside the bracket. -/
def cutShort : Bracket → Flaw
  | list => .endInList
  | object => .endInObject

/-- The flaw of an entry that neither a comma nor the closing bracket follows. -/
def noComma : Bracket → Flaw
  | list => .noCommaInList
  | object => .noCommaInObject

end Bracket

/-- Takes a colon. -/
def takeColon (t : Octets) : Except Stop Octets :=
  match skipBlanks t with
  | [] => .error (.ahead .endInObject [])
  | b :: rest => if Octets.char b = ':' then .ok rest else .error (.ahead .noColon (b :: rest))

/-- Skips what stands in front of the value of an entry: in an object the name and a colon. -/
def skipName (bracket : Bracket) (t : Octets) : Except Stop Octets :=
  match bracket with
  | .list => .ok t
  | .object =>
    match skipBlanks t with
    | [] => .error (.ahead .endInObject [])
    | b :: rest =>
      if Octets.char b = '"' then do takeColon (← skipString rest)
      else .error (.ahead .keyNoString (b :: rest))

/-- Takes a value that is a leaf, or the bracket with which another one begins. -/
def skipStart (t : Octets) : Except Stop (Option Bracket × Octets) :=
  match skipBlanks t with
  | [] => .error (.ahead .endInValue [])
  | b :: rest =>
    if Octets.char b = '[' then .ok (some .list, rest)
    else if Octets.char b = '{' then .ok (some .object, rest)
    else (skipLeaf b rest).map fun rest => (none, rest)

/-- Skips what is left of the open brackets, the innermost first; `later` tells whether an entry
of that one was passed, so that a comma may follow. Every turn takes an octet, so a text and one
octet are turns enough. -/
def skipEntries : (turns : Octets) → (later : Bool) → List Bracket → Octets → Except Stop Octets
  | _, _, [], t => .ok t
  | [], _, bracket :: _, t => .error (.ahead bracket.cutShort t)
  | _ :: turns, later, bracket :: outer, t =>
    match skipBlanks t with
    | [] => .error (.ahead bracket.cutShort [])
    | b :: rest =>
      if Octets.char b = bracket.close then skipEntries turns true outer rest
      else if later ∧ Octets.char b ≠ ',' then .error (.ahead bracket.noComma (b :: rest))
      else
        match (skipName bracket (if later then rest else b :: rest)).bind skipStart with
        | .error stop => .error stop
        | .ok (some inner, rest) => skipEntries turns false (inner :: bracket :: outer) rest
        | .ok (none, rest) => skipEntries turns true (bracket :: outer) rest

/-- Skips a value. -/
def skipValue (t : Octets) : Except Stop Octets := do
  match ← skipStart t with
  | (some bracket, rest) => skipEntries t false [bracket] rest
  | (none, rest) => .ok rest

end Workspaces.Json
