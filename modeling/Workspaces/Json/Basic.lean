-- JSON values. An object read from text holds its members by ascending name, each name once;
-- one put together for writing keeps the order it was given.
import Workspaces.Binary64.Shortest
import Workspaces.Text.Numeral

namespace Workspaces

namespace Json

/-- A number: an integer of 64 bits, signed or not, or else a binary floating-point number. -/
inductive Number where
  | integer (n : Int)
  | float (x : Binary64)
  deriving DecidableEq, Repr

end Json

inductive Json where
  | null
  | bool (b : Bool)
  | number (n : Json.Number)
  | string (s : String)
  | array (items : List Json)
  | object (members : List (String × Json))
  deriving Repr

namespace Json

/-- The number of an integer. -/
def int (n : Int) : Json := .number (.integer n)

/-- The text, or null where there is none. -/
def ofText? : Option String → Json
  | none => .null
  | some s => .string s

def isObject : Json → Bool
  | .object _ => true
  | _ => false

/-! ## Equality -/

mutual

/-- Equality of values is decidable. -/
def decEq : (a b : Json) → Decidable (a = b)
  | .null, .null => isTrue rfl
  | .bool a, .bool b => decidable_of_iff (a = b) (by simp)
  | .number a, .number b => decidable_of_iff (a = b) (by simp)
  | .string a, .string b => decidable_of_iff (a = b) (by simp)
  | .array a, .array b =>
    match decEqItems a b with
    | isTrue h => isTrue (by rw [h])
    | isFalse h => isFalse (by simpa using h)
  | .object a, .object b =>
    match decEqMembers a b with
    | isTrue h => isTrue (by rw [h])
    | isFalse h => isFalse (by simpa using h)
  | .null, .bool _ | .null, .number _ | .null, .string _ | .null, .array _ | .null, .object _
  | .bool _, .null | .bool _, .number _ | .bool _, .string _ | .bool _, .array _
  | .bool _, .object _ | .number _, .null | .number _, .bool _ | .number _, .string _
  | .number _, .array _ | .number _, .object _ | .string _, .null | .string _, .bool _
  | .string _, .number _ | .string _, .array _ | .string _, .object _ | .array _, .null
  | .array _, .bool _ | .array _, .number _ | .array _, .string _ | .array _, .object _
  | .object _, .null | .object _, .bool _ | .object _, .number _ | .object _, .string _
  | .object _, .array _ => isFalse (by simp)

def decEqItems : (a b : List Json) → Decidable (a = b)
  | [], [] => isTrue rfl
  | [], _ :: _ | _ :: _, [] => isFalse (by simp)
  | v :: vs, w :: ws =>
    match decEq v w with
    | isFalse h => isFalse (by simp [h])
    | isTrue h =>
      match decEqItems vs ws with
      | isTrue hs => isTrue (by rw [h, hs])
      | isFalse hs => isFalse (by simp [hs])

def decEqMembers : (a b : List (String × Json)) → Decidable (a = b)
  | [], [] => isTrue rfl
  | [], _ :: _ | _ :: _, [] => isFalse (by simp)
  | (m, v) :: vs, (n, w) :: ws =>
    if hn : m = n then
      match decEq v w with
      | isFalse h => isFalse (by simp [h])
      | isTrue h =>
        match decEqMembers vs ws with
        | isTrue hs => isTrue (by rw [hn, h, hs])
        | isFalse hs => isFalse (by simp [hs])
    else isFalse (by simp [hn])

end

instance : DecidableEq Json := decEq

/-! ## Members -/

/-- Sets a member among members by ascending name; a member of that name is replaced. -/
def setMember (name : String) (value : Json) : List (String × Json) → List (String × Json)
  | [] => [(name, value)]
  | (n, v) :: rest =>
    if name < n then (name, value) :: (n, v) :: rest
    else if name = n then (name, value) :: rest
    else (n, v) :: setMember name value rest

/-- The value of a member of an object. -/
def member? (name : String) : Json → Option Json
  | .object members => (members.find? (·.1 = name)).map (·.2)
  | _ => none

/-- The names of a JSON pointer: each follows a slash, with a slash in it written `~1` and a
tilde `~0`. A pointer that is not empty begins with a slash. -/
def pointerNames? (pointer : List Char) : Option (List String) :=
  match pointer.splitOn '/' with
  | [[]] => some []
  | [] :: names => some (names.map fun n => String.ofList (unescape n))
  | _ => none
where
  unescape : List Char → List Char
    | '~' :: '1' :: rest => '/' :: unescape rest
    | '~' :: '0' :: rest => '~' :: unescape rest
    | c :: rest => c :: unescape rest
    | [] => []

/-- An index of an array as a pointer writes it: decimal digits without a zero in front. -/
def index? (name : String) : Option Nat :=
  match name.toList with
  | ['0'] => some 0
  | '0' :: _ => none
  | '+' :: _ => none
  | _ =>
    match Numeral.read (.unsigned 64) (Octets.ofString name) with
    | .ok n => some n.toNat
    | .error _ => none

/-- The value that names lead to, from member to member and item to item. -/
def follow? (v : Json) : List String → Option Json
  | [] => some v
  | name :: names =>
    match v with
    | .object _ => (v.member? name).bind (·.follow? names)
    | .array items => (index? name).bind fun i => (items[i]?).bind (·.follow? names)
    | _ => none

/-- The value that a JSON pointer leads to. -/
def find? (pointer : String) (v : Json) : Option Json :=
  (pointerNames? pointer.toList).bind v.follow?

end Json

end Workspaces
