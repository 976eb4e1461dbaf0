-- Reading JSON values from octets.
import Workspaces.Json.Skip

namespace Workspaces.Json

/-! ## Lists -/

/-- What stands in front of an item of a list: the next item or the end. `later` tells whether an
item was read before. The closing bracket is left to be taken. -/
def nextItem (later : Bool) (t : Octets) : Except Stop (Option Octets) :=
  match skipBlanks t with
  | [] => .error (.ahead .endInList [])
  | b :: rest =>
    if Octets.char b = ']' then .ok none
    else if !later then .ok (some (b :: rest))
    else if Octets.char b = ',' then
      match skipBlanks rest with
      | [] => .error (.ahead .endInValue [])
      | c :: rest =>
        if Octets.char c = ']' then .error (.ahead .trailingComma (c :: rest))
        else .ok (some (c :: rest))
    else .error (.ahead .noCommaInList (b :: rest))

/-- Takes the closing bracket of a list of which no more items are wanted. -/
def takeListEnd (t : Octets) : Except Stop Octets :=
  match skipBlanks t with
  | [] => .error (.ahead .endInList [])
  | b :: rest =>
    if Octets.char b = ']' then .ok rest
    else if Octets.char b = ',' then
      match skipBlanks rest with
      | c :: rest =>
        .error (.ahead (if Octets.char c = ']' then .trailingComma else .trailingText) (c :: rest))
      | [] => .error (.ahead .trailingText [])
    else .error (.ahead .trailingText (b :: rest))

/-- Takes the items of a list whose bracket was taken, onto those already read, which stand
newest first. Every item takes an octet, so a text and one octet are turns enough. -/
def takeItems {α : Type} (item : Reader α) : (turns : Octets) → List α → Reader (List α)
  | [], _, t => .error (.ahead .endInList t)
  | _ :: turns, done, t =>
    match nextItem (!done.isEmpty) t with
    | .error stop => .error stop
    | .ok none => (takeListEnd t).map fun rest => (done.reverse, rest)
    | .ok (some t) =>
      match item t with
      | .error stop => .error stop
      | .ok (x, rest) => takeItems item turns (x :: done) rest

/-! ## Objects -/

/-- The name of the next member of an object, or its end. `later` tells whether a member was read
before. The closing brace is left to be taken. -/
def nextName (later : Bool) (t : Octets) : Except Stop (Option (String × Octets)) :=
  match skipBlanks t with
  | [] => .error (.ahead .endInObject [])
  | b :: rest =>
    if Octets.char b = '}' then .ok none
    else if later then
      if Octets.char b = ',' then
        match skipBlanks rest with
        | [] => .error (.ahead .endInValue [])
        | c :: rest =>
          if Octets.char c = '"' then (takeString rest).map some
          else if Octets.char c = '}' then .error (.ahead .trailingComma (c :: rest))
          else .error (.ahead .keyNoString (c :: rest))
      else .error (.ahead .noCommaInObject (b :: rest))
    else if Octets.char b = '"' then (takeString rest).map some
    else .error (.ahead .keyNoString (b :: rest))

/-- Takes the closing brace of an object, all members of which were read. -/
def takeObjectEnd (t : Octets) : Except Stop Octets :=
  match skipBlanks t with
  | [] => .error (.ahead .endInObject [])
  | b :: rest =>
    if Octets.char b = '}' then .ok rest
    else if Octets.char b = ',' then .error (.ahead .trailingComma (b :: rest))
    else .error (.ahead .trailingText (b :: rest))

/-- Takes the members of an object whose brace was taken, onto those already read. The last one
of a name counts. Every member takes an octet, so a text and one octet are turns enough. -/
def takeMembers (value : Reader Json) :
    (turns : Octets) → Bool → List (String × Json) → Reader (List (String × Json))
  | [], _, _, t => .error (.ahead .endInObject t)
  | _ :: turns, later, done, t =>
    match nextName later t with
    | .error stop => .error stop
    | .ok none => (takeObjectEnd t).map fun rest => (done, rest)
    | .ok (some (name, rest)) =>
      match takeColon rest with
      | .error stop => .error stop
      | .ok rest =>
        match value rest with
        | .error stop => .error stop
        | .ok (v, rest) => takeMembers value turns true (setMember name v done) rest

/-! ## Values -/

/-- Takes a value that is no list and no object. -/
def takeLeaf (b : UInt8) (rest : Octets) : Except Stop (Json × Octets) :=
  match Octets.char b with
  | 'n' => (takeWord ['u', 'l', 'l'] rest).map (.null, ·)
  | 't' => (takeWord ['r', 'u', 'e'] rest).map (.bool true, ·)
  | 'f' => (takeWord ['a', 'l', 's', 'e'] rest).map (.bool false, ·)
  | '"' => (takeString rest).map fun (s, rest) => (.string s, rest)
  | '-' => (takeNumber true rest).map fun (n, rest) => (.number n, rest)
  | _ =>
    if isDigit b then (takeNumber false (b :: rest)).map fun (n, rest) => (.number n, rest)
    else .error (.ahead .noValue (b :: rest))

/-- Takes a value in which brackets are nested less than `depth` deep. -/
def takeValue : (depth : Nat) → Reader Json
  | 0, t => .error (.ahead .tooDeep (skipBlanks t))
  | depth + 1, t =>
    match skipBlanks t with
    | [] => .error (.ahead .endInValue [])
    | b :: rest =>
      if Octets.char b = '[' then
        if depth = 0 then .error (.ahead .tooDeep (b :: rest))
        else (takeItems (takeValue depth) (b :: rest) [] rest).map fun (vs, rest) =>
          (.array vs, rest)
      else if Octets.char b = '{' then
        if depth = 0 then .error (.ahead .tooDeep (b :: rest))
        else (takeMembers (takeValue depth) (b :: rest) false [] rest).map fun (ms, rest) =>
          (.object ms, rest)
      else takeLeaf b rest

/-- How deep brackets may be nested, and one more. -/
def depthLimit : Nat := 128

/-! ## Whole texts -/

/-- Reads a whole text: after what `reader` takes only blanks may follow. -/
def readWhole {α : Type} (reader : Reader α) (t : Octets) : Except Stop α :=
  match reader t with
  | .error stop => .error stop
  | .ok (x, rest) =>
    match skipBlanks rest with
    | [] => .ok x
    | b :: rest => .error (.ahead .trailingText (b :: rest))

/-- The value that a whole text is. -/
def ofOctets (t : Octets) : Except Stop Json := readWhole (takeValue depthLimit) t

end Workspaces.Json
