-- Why and where the reading of JSON stops.
import Workspaces.Json.Text
import Workspaces.Text.Quoted

namespace Workspaces.Json

/-! ## Causes -/

/-- What is wrong with a text that is no JSON. -/
inductive Flaw where
  | endInList
  | endInObject
  | endInString
  | endInValue
  | noColon
  | noCommaInList
  | noCommaInObject
  | badWord
  | noValue
  | badEscape
  | badNumber
  | numberTooLarge
  | badUtf8
  | controlCharacter
  | keyNoString
  | loneSurrogate
  | trailingComma
  | trailingText
  | endInHexEscape
  | tooDeep
  deriving DecidableEq, Repr

def Flaw.message : Flaw → String
  | endInList => "EOF while parsing a list"
  | endInObject => "EOF while parsing an object"
  | endInString => "EOF while parsing a string"
  | endInValue => "EOF while parsing a value"
  | noColon => "expected `:`"
  | noCommaInList => "expected `,` or `]`"
  | noCommaInObject => "expected `,` or `\x7d`"
  | badWord => "expected ident"
  | noValue => "expected value"
  | badEscape => "invalid escape"
  | badNumber => "invalid number"
  | numberTooLarge => "number out of range"
  | badUtf8 => "invalid unicode code point"
  | controlCharacter => "control character (\\u0000-\\u001F) found while parsing a string"
  | keyNoString => "key must be a string"
  | loneSurrogate => "lone leading surrogate in hex escape"
  | trailingComma => "trailing comma"
  | trailingText => "trailing characters"
  | endInHexEscape => "unexpected end of hex escape"
  | tooDeep => "recursion limit exceeded"

/-- Whether more text could have mended the flaw. -/
def Flaw.isCutShort : Flaw → Bool
  | endInList | endInObject | endInString | endInValue => true
  | _ => false

/-- A value that was met where another kind was wanted. -/
inductive Met where
  | null
  | bool (b : Bool)
  | number (n : Number)
  | string (s : String)
  | sequence
  | map
  deriving DecidableEq, Repr

/-- Why a well-formed value does not fit the type it is read at. -/
inductive Misfit where
  | wrongKind (met : Met) (wanted : String)
  | missingField (name : String)
  | repeatedField (name : String)
  | wrongLength (length : Nat) (wanted : String)
  | unreadable (reason : String)
  deriving DecidableEq, Repr

def Met.describe : Met → String
  | null => "null"
  | bool b => if b then "boolean `true`" else "boolean `false`"
  | number (.integer n) => "integer `" ++ String.ofList (Numeral.write n) ++ "`"
  | number (.float x) => "floating point `" ++ String.ofList x.write ++ "`"
  | string s => "string " ++ Text.quoted s
  | sequence => "sequence"
  | map => "map"

def Misfit.message : Misfit → String
  | wrongKind met wanted => "invalid type: " ++ met.describe ++ ", expected " ++ wanted
  | missingField name => "missing field `" ++ name ++ "`"
  | repeatedField name => "duplicate field `" ++ name ++ "`"
  | wrongLength length wanted =>
    "invalid length " ++ String.ofList (Nat.toDigits 10 length) ++ ", expected " ++ wanted
  | unreadable reason => reason

inductive Cause where
  | flaw (f : Flaw)
  | misfit (m : Misfit)
  deriving DecidableEq, Repr

def Cause.message : Cause → String
  | flaw f => f.message
  | misfit m => m.message

/-! ## Places -/

/-- The member or item of the outermost value that was being read. -/
inductive Place where
  | member (name : String)
  | item (index : Nat)
  deriving DecidableEq, Repr

/-- Where reading stopped and why. The place in the text is told by what is left unread there. -/
structure Stop where
  cause : Cause
  unread : Octets
  within : Option Place
  deriving DecidableEq, Repr

/-- A reader takes what it reads from the front of the octets and gives the rest. -/
abbrev Reader (α : Type) := Octets → Except Stop (α × Octets)

namespace Stop

/-- A flaw seen once the octet before `t` was taken. -/
def after (f : Flaw) (t : Octets) : Stop := ⟨.flaw f, t, none⟩

/-- A flaw seen in the next octet, before it was taken; the place is behind that octet. -/
def ahead (f : Flaw) (t : Octets) : Stop := ⟨.flaw f, t.drop 1, none⟩

/-- A misfit told once `t` was all that was left. -/
def misfit (m : Misfit) (t : Octets) : Stop := ⟨.misfit m, t, none⟩

/-- Line and column of the place in the whole text: a line feed ends a line, and the column is
the number of octets on the line up to the place. -/
def lineAndColumn (whole : Octets) (s : Stop) : Nat × Nat :=
  let before := whole.take (whole.length - s.unread.length)
  ((before.filter (· = 0x0A)).length + 1, (before.reverse.takeWhile (· ≠ 0x0A)).length)

/-- The cause and the place in the whole text. -/
def message (whole : Octets) (s : Stop) : String :=
  let (line, column) := s.lineAndColumn whole
  s!"{s.cause.message} at line {line} column {column}"

end Stop

end Workspaces.Json
