-- The spellings of an identifier, and what is wrong with a text that is none: digits of either
-- case, bare or in groups, and groups also in braces or behind `urn:uuid:`.
import Workspaces.Uuid.Basic
import Workspaces.Json.Record

namespace Workspaces.Uuid

/-! ## What is wrong -/

/-- Why a text spells no identifier. Places and lengths are in octets, groups count from zero. -/
inductive SpellingFault where
  | strayCharacter (c : Char) (place : Nat)
  | wrongLength (length : Nat)
  | groupCount (count : Nat)
  | groupLength (group length : Nat)
  deriving DecidableEq, Repr

/-- The lengths of the five groups. -/
def groupLengths : List Nat := [8, 4, 4, 4, 12]

/-- Where the five groups start. -/
def groupStarts : List Nat := [0, 9, 14, 19, 24]

def SpellingFault.message : SpellingFault → String
  | strayCharacter c place => s!"invalid character: found `{c}` at {place}"
  | wrongLength length => s!"invalid length: found {length}"
  | groupCount count => s!"invalid group count: expected 5, found {count}"
  | groupLength group length =>
    let wanted := groupLengths[group]?.getD 0
    s!"invalid group length in group {group}: expected {wanted}, found {length}"

/-! ## Reading -/

/-- The identifier of bare digits. -/
def ofBare? (t : Octets) : Option Uuid :=
  if t.length = 32 then (hexValue? t).map fun n => ⟨BitVec.ofNat 128 n⟩ else none

/-- The identifier of digits in groups: 36 octets with hyphens at 8, 13, 18 and 23. -/
def ofGroups? (t : Octets) : Option Uuid :=
  let isHyphen (i : Nat) := (t[i]?).any fun b => Octets.char b = '-'
  if t.length = 36 ∧ isHyphen 8 ∧ isHyphen 13 ∧ isHyphen 18 ∧ isHyphen 23 then
    ofBare? (t.filter fun b => Octets.char b ≠ '-')
  else none

/-- The inside of a text in braces. -/
def unbraced? (t : Octets) : Option Octets :=
  match t with
  | b :: rest =>
    if Octets.char b = '{' ∧ rest.getLast?.any (fun e => Octets.char e = '}') then
      some rest.dropLast
    else none
  | [] => none

/-- What follows `urn:uuid:`, in letters of either case. -/
def afterUrn? (t : Octets) : Option Octets :=
  if (t.take 9).map Octets.lower = Octets.ofString "urn:uuid:" then some (t.drop 9)
  else none

/-- The identifier that a text spells. -/
def ofOctets? (t : Octets) : Option Uuid :=
  if t.length = 32 then ofBare? t
  else if t.length = 36 then ofGroups? t
  else if t.length = 38 then (unbraced? t).bind ofGroups?
  else if t.length = 45 then (afterUrn? t).bind ofGroups?
  else none

/-! ## Diagnosis -/

/-- The first character that is neither a digit nor a hyphen, with its place. -/
def stray? (place : Nat) : List Char → Option (Char × Nat)
  | [] => none
  | c :: cs =>
    let octets := String.utf8EncodeChar c
    if octets.all fun b => (Octets.hexDigit? b).isSome || Octets.char b = '-' then
      stray? (place + octets.length) cs
    else some (c, place)

/-- Where the hyphens are. -/
def hyphens (cs : List Char) : List Nat :=
  cs.zipIdx.filterMap fun (c, i) => if c = '-' then some i else none

/-- The first group that does not end where it should, given where the hyphens are, and the last
group if there is none. -/
def unevenGroup (length : Nat) (hyphens : List Nat) : SpellingFault :=
  let groups := (hyphens.zip (groupStarts.zip groupStarts.tail)).zipIdx
  match groups.find? fun ((hyphen, _, next), _) => hyphen + 1 ≠ next with
  | some ((hyphen, start, _), i) => .groupLength i (hyphen - start)
  | none => .groupLength 4 (length - 24)

/-- What is wrong with the digits and hyphens of a text of some length, which start at `start`.
Without hyphens it is the length, unless groups are asked for. -/
def diagnoseFrom (start : Nat) (wantsGroups : Bool) (length : Nat) (cs : List Char) :
    SpellingFault :=
  match stray? start cs with
  | some (c, place) => .strayCharacter c place
  | none =>
    match hyphens cs with
    | [] => if wantsGroups then .groupCount 1 else .wrongLength length
    | [a, b, c, d] => unevenGroup length [a, b, c, d]
    | places => .groupCount (places.length + 1)

/-- What is wrong with a text as long as digits in groups. -/
def diagnoseGroups (cs : List Char) : SpellingFault := diagnoseFrom 0 true 36 cs

/-- The longest text that is looked into, as long as `urn:uuid:` with digits in groups. -/
def lengthLimit : Nat := 45

/-- What is wrong with a text that spells no identifier. In one that is as long as its wrapping
needs, the wrapping does not count. -/
def diagnose (s : String) : SpellingFault :=
  let t := Octets.ofString s
  let cs := s.toList
  if t.length > lengthLimit then .wrongLength t.length
  else if t.length = 36 then diagnoseGroups cs
  else
    match unbraced? t, afterUrn? t with
    | some _, _ =>
      let inner := (cs.drop 1).dropLast
      if t.length = 38 then diagnoseGroups inner else diagnoseFrom 1 true t.length inner
    | none, some _ =>
      let inner := cs.drop 9
      if t.length = 45 then diagnoseGroups inner else diagnoseFrom 9 true t.length inner
    | none, none => diagnoseFrom 0 false t.length cs

/-- The identifier that a text spells, or what is wrong with the text. -/
def read (s : String) : Except SpellingFault Uuid :=
  match ofOctets? (Octets.ofString s) with
  | some u => .ok u
  | none => .error (diagnose s)

/-- Identifiers as strings of any spelling. -/
def decoder : Json.Decoder Uuid :=
  .parsed "a formatted UUID string" fun s =>
    (read s).mapError fun fault => "UUID parsing failed: " ++ fault.message

end Workspaces.Uuid
