-- Timestamps: the RFC 3339 text of a moment, and the reading of one in a relaxed form. Blanks may
-- stand between the parts, digits may be fewer, a year beyond four digits has a sign, and `UTC`
-- may stand for the offset.
import Workspaces.Instant.Basic
import Workspaces.Text.Blank
import Workspaces.Json.Record

namespace Workspaces

namespace Instant

/-! ## Writing -/

/-- The digits of a number, at least `width` of them. -/
def padded (width n : Nat) : List Char :=
  let digits := Nat.toDigits 10 n
  List.replicate (width - digits.length) '0' ++ digits

/-- A year: four digits, or a sign and at least four digits. -/
def yearChars (year : Int) : List Char :=
  if 0 ≤ year ∧ year ≤ 9999 then padded 4 year.toNat
  else (if year < 0 then '-' else '+') :: padded 4 year.natAbs

/-- A fraction of a second: nothing, or a point and as few of 3, 6 or 9 digits as are exact. -/
def fractionChars (nano : Nat) : List Char :=
  if nano = 0 then []
  else if nano % 1000000 = 0 then '.' :: padded 3 (nano / 1000000)
  else if nano % 1000 = 0 then '.' :: padded 6 (nano / 1000)
  else '.' :: padded 9 nano

/-- Day and time without an offset. A leap second is written as the 60th. -/
def chars (t : Instant) : List Char :=
  yearChars t.date.year ++ '-' :: (padded 2 t.date.month ++ '-' :: (padded 2 t.date.day ++
    'T' :: (padded 2 (t.second / 3600) ++ ':' :: (padded 2 (t.second / 60 % 60) ++
      ':' :: (padded 2 (t.second % 60 + t.nano / 1000000000) ++
        fractionChars (t.nano % 1000000000))))))

/-- The timestamp with `Z` for the offset. -/
def text (t : Instant) : String := String.ofList (t.chars ++ ['Z'])

/-- The timestamp with the offset in digits. -/
def offsetText (t : Instant) : String :=
  String.ofList (t.chars ++ ['+', '0', '0', ':', '0', '0'])

end Instant

namespace Timestamp

/-! ## What is wrong -/

/-- Why a text is no timestamp. -/
inductive Fault where
  | cutShort
  | badCharacter
  | outOfRange
  | trailing
  | noSuchMoment
  deriving DecidableEq, Repr

def Fault.message : Fault → String
  | cutShort => "premature end of input"
  | badCharacter => "input contains invalid characters"
  | outOfRange => "input is out of range"
  | trailing => "trailing input"
  | noSuchMoment => "no possible date and time matching input"

/-! ## Parts -/

def isDigit (c : Char) : Bool := '0' ≤ c && c ≤ '9'

def digitsValue (digits : List Char) : Nat :=
  digits.foldl (fun n c => 10 * n + (c.toNat - 48)) 0

/-- Takes a number of one to `width` digits. -/
def takeNumber (width : Nat) (s : List Char) : Except Fault (Nat × List Char) :=
  match s with
  | [] => .error .cutShort
  | c :: _ =>
    if !isDigit c then .error .badCharacter
    else
      let digits := (s.take width).takeWhile isDigit
      if (IntegerRange.signed 64).contains (digitsValue digits) then
        .ok (digitsValue digits, s.drop digits.length)
      else .error .outOfRange

/-- Takes a number of one or two digits in a range, behind blanks. -/
def takePart (least greatest : Nat) (s : List Char) : Except Fault (Nat × List Char) := do
  let (n, s) ← takeNumber 2 (Text.trimStart s)
  if least ≤ n ∧ n ≤ greatest then .ok (n, s) else .error .outOfRange

/-- Takes a year behind blanks: up to four digits, or a sign and any number of digits. -/
def takeYear (s : List Char) : Except Fault (Int × List Char) := do
  let s := Text.trimStart s
  let (year, s) ← show Except Fault (Int × List Char) from
    match s with
    | '-' :: rest => (takeNumber rest.length rest).map fun (n, s) => (-(n : Int), s)
    | '+' :: rest => (takeNumber rest.length rest).map fun (n, s) => ((n : Int), s)
    | _ => (takeNumber 4 s).map fun (n, s) => ((n : Int), s)
  if (IntegerRange.signed 32).contains year then .ok (year, s) else .error .outOfRange

/-- Takes a separator behind blanks. -/
def takeMark (mark : Char) (s : List Char) : Except Fault (List Char) :=
  match Text.trimStart s with
  | [] => .error .cutShort
  | c :: rest => if c = mark then .ok rest else .error .badCharacter

/-- Takes a fraction of a second, if one follows, as nanoseconds. Digits past the ninth are
dropped. -/
def takeFraction (s : List Char) : Except Fault (Nat × List Char) :=
  match s with
  | '.' :: rest => do
    let (n, after) ← takeNumber 9 rest
    .ok (n * Decimal.power (9 - (rest.length - after.length)), after.dropWhile isDigit)
  | _ => .ok (0, s)

/-- Takes two digits. -/
def takeTwoDigits (s : List Char) : Except Fault (Nat × Nat × List Char) :=
  match s with
  | [] => .error .cutShort
  | [c] => .error (if c.toNat < 0x80 then .cutShort else .badCharacter)
  | c :: d :: rest =>
    if isDigit c && isDigit d then .ok (c.toNat - 48, d.toNat - 48, rest)
    else .error .badCharacter

/-- Takes an offset in hours and minutes behind its sign, as seconds. -/
def takeHoursMinutes (s : List Char) : Except Fault (Nat × List Char) := do
  let (h, i, s) ← takeTwoDigits s
  let (m, n, s) ← takeTwoDigits (s.dropWhile fun c => c = ':' || Text.isBlank c)
  if 6 ≤ m then .error .outOfRange else .ok ((10 * h + i) * 3600 + (10 * m + n) * 60, s)

/-- Takes an offset: `Z`, `UTC`, or a sign, hours and minutes. -/
def takeOffset (s : List Char) : Except Fault (Int × List Char) :=
  match s with
  | [] => .error .cutShort
  | c :: rest =>
    if (s.take 3).map Char.toUpper = ['U', 'T', 'C'] then .ok (0, s.drop 3)
    else if c = 'Z' ∨ c = 'z' then .ok (0, rest)
    else if c = '+' then (takeHoursMinutes rest).map fun (n, s) => ((n : Int), s)
    else if c = '-' ∨ c = '−' then (takeHoursMinutes rest).map fun (n, s) => (-(n : Int), s)
    else .error .badCharacter

/-! ## Whole timestamps -/

/-- The moment that a timestamp names. The parts are looked at in the order of the text; only
then is it asked whether there is such a day, offset and moment. -/
def read (s : String) : Except Fault Instant := do
  let (year, s) ← takeYear s.toList
  let s ← takeMark '-' s
  let (month, s) ← takePart 1 12 s
  let s ← takeMark '-' s
  let (day, s) ← takePart 1 31 s
  let s ← show Except Fault (List Char) from
    match s with
    | [] => .error .cutShort
    | c :: rest => if c = 'T' ∨ c = 't' ∨ c = ' ' then .ok rest else .error .badCharacter
  let (hour, s) ← takePart 0 23 s
  let s ← takeMark ':' s
  let (minute, s) ← takePart 0 59 s
  let s ← takeMark ':' s
  let (second, s) ← takePart 0 60 s
  let (nano, s) ← takeFraction s
  let (offset, s) ← takeOffset (Text.trimStart s)
  if Text.trimStart s ≠ [] then .error .trailing
  let some date := Date.ofParts? year month day | .error .outOfRange
  if 86400 ≤ offset.natAbs then .error .outOfRange
  let leap := second = 60
  let secondOfDay := 3600 * hour + 60 * minute + if leap then 59 else second
  let nano := if leap then nano + 1000000000 else nano
  match Instant.ofLocal? date secondOfDay nano offset with
  | some t => .ok t
  | none => .error .noSuchMoment

/-- Moments as strings that hold a timestamp. -/
def decoder : Json.Decoder Instant :=
  .parsed "an RFC 3339 formatted date and time string" fun s => (read s).mapError Fault.message

end Timestamp

end Workspaces
