-- The text of a JSON value: no blanks, members in the order the value holds them, and every
-- character beyond ASCII as it is.
import Workspaces.Json.Basic

namespace Workspaces.Json

/-! ## Strings -/

/-- A hexadecimal digit in its small form. -/
def hexChar (n : Nat) : Char := Nat.digitChar n

/-- A character as it stands between quotes: the quote, the backslash and the control
characters below the space are escaped. -/
def escaped (c : Char) : List Char :=
  if c = '"' then ['\\', '"']
  else if c = '\\' then ['\\', '\\']
  else if 0x20 ≤ c.toNat then [c]
  else if c = '\n' then ['\\', 'n']
  else if c = '\t' then ['\\', 't']
  else if c = '\r' then ['\\', 'r']
  else if c.toNat = 0x08 then ['\\', 'b']
  else if c.toNat = 0x0C then ['\\', 'f']
  else ['\\', 'u', '0', '0', hexChar (c.toNat / 16), hexChar (c.toNat % 16)]

/-- A text between quotes. -/
def quoted (s : String) : List Char := '"' :: (s.toList.flatMap escaped ++ ['"'])

/-! ## Values -/

def Number.chars : Number → List Char
  | .integer n => Numeral.write n
  | .float x => x.write

mutual

/-- The characters of a value's text. -/
def chars : Json → List Char
  | .null => ['n', 'u', 'l', 'l']
  | .bool true => ['t', 'r', 'u', 'e']
  | .bool false => ['f', 'a', 'l', 's', 'e']
  | .number n => n.chars
  | .string s => quoted s
  | .array [] => ['[', ']']
  | .array (v :: vs) => '[' :: (v.chars ++ moreItems vs)
  | .object [] => ['{', '}']
  | .object ((n, v) :: ms) => '{' :: (quoted n ++ ':' :: (v.chars ++ moreMembers ms))

/-- The items after the first, each behind a comma, and the closing bracket. -/
def moreItems : List Json → List Char
  | [] => [']']
  | v :: vs => ',' :: (v.chars ++ moreItems vs)

/-- The members after the first, each behind a comma, and the closing brace. -/
def moreMembers : List (String × Json) → List Char
  | [] => ['}']
  | (n, v) :: ms => ',' :: (quoted n ++ ':' :: (v.chars ++ moreMembers ms))

end

/-- The text of a value. -/
def text (v : Json) : String := String.ofList v.chars

end Workspaces.Json
