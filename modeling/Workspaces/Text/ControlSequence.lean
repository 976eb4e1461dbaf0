-- What a terminal shows of a text: its control characters and control sequences are taken off,
-- the blanks that move the cursor stay.

namespace Workspaces.Text

/-! ## A reader of control sequences -/

/-- Where a reader stands between characters. -/
inductive Sequence where
  /-- In no control sequence. -/
  | outside
  /-- Behind the escape character. -/
  | escape
  /-- In an escape sequence of more than one character. -/
  | long
  /-- In the parameters of a control sequence. -/
  | parameters
  /-- In a command to the system, which a bell may end. -/
  | command
  /-- At the head of a string for a device. -/
  | device
  /-- In the parameters of such a string. -/
  | deviceParameters
  /-- In what may stand between them and the string. -/
  | deviceIntermediate
  /-- In the body of that or another string. -/
  | string
  deriving DecidableEq, Repr

namespace Sequence

/-- Whether the character moves the cursor like a blank. -/
def movesCursor (c : Char) : Bool :=
  c = '\t' || c = '\n' || c.toNat = 0x0C || c = '\r'

/-- Whether the reader obeys a control character, rather than passing over it. -/
def obeys : Sequence → Bool
  | outside | escape | long | parameters => true
  | _ => false

/-- Whether a character shows. One that moves the cursor does so within a sequence too. -/
def shows (s : Sequence) (c : Char) : Bool :=
  (s = outside && 0x20 ≤ c.toNat && c.toNat ≠ 0x7F) || (s.obeys && movesCursor c)

/-- What a visible ASCII character behind the escape character begins. -/
def opening (c : Char) : Sequence :=
  if c.toNat < 0x30 then long
  else if c = '[' then parameters
  else if c = ']' then command
  else if c = 'P' then device
  else if c = 'X' ∨ c = '^' ∨ c = '_' then string
  else outside

/-- Where a visible ASCII character that does not show leaves the reader. -/
def nextVisible (c : Char) : Sequence → Sequence
  | outside => outside
  | escape => opening c
  | long => if c.toNat < 0x30 then long else outside
  | parameters => if c.toNat < 0x40 then parameters else outside
  | command => command
  | device =>
    if c.toNat < 0x30 then deviceIntermediate
    else if c.toNat < 0x40 then deviceParameters
    else string
  | deviceParameters =>
    if c.toNat < 0x30 then deviceIntermediate
    else if c.toNat < 0x3C then deviceParameters
    else string
  | deviceIntermediate => if c.toNat < 0x30 then deviceIntermediate else string
  | string => string

/-- Whether the octet 0x9C, which ends the body of a string, is one of the character. -/
def endsString (c : Char) : Bool := (String.utf8EncodeChar c).contains 0x9C

/-- Where a character that does not show leaves the reader. One beyond ASCII is passed over octet
by octet. -/
def next (c : Char) (s : Sequence) : Sequence :=
  if c.toNat = 0x1B then escape
  else if c.toNat = 0x18 ∨ c.toNat = 0x1A then outside
  else if c.toNat = 0x07 ∧ s = command then outside
  else if c.toNat < 0x20 ∨ c.toNat = 0x7F then s
  else if c.toNat < 0x7F then s.nextVisible c
  else if s = string ∧ endsString c then outside
  else s

end Sequence

/-! ## Showing -/

/-- Shows characters behind those already shown, which stand newest first. A sequence in which a
character shows is over. -/
def showOnto (s : Sequence) (out : List Char) : List Char → List Char
  | [] => out.reverse
  | c :: cs =>
    if s.shows c then showOnto .outside (c :: out) cs else showOnto (s.next c) out cs

/-- What a terminal shows of a text. -/
def shown (s : String) : String := String.ofList (showOnto .outside [] s.toList)

end Workspaces.Text
