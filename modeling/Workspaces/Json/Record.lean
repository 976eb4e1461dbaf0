-- Records read from JSON: an object with a member for each field, or a list of the fields in
-- order. Members that belong to no field are passed over.
import Workspaces.Json.Read

namespace Workspaces.Json

/-! ## Decoders -/

/-- Reading a value of a type, from the front of a text or from a value already read. -/
structure Decoder (α : Type) where
  take : Reader α
  ofValue : Json → Except Misfit α

/-- What kind of value was met. -/
def Met.ofValue : Json → Met
  | .null => .null
  | .bool b => .bool b
  | .number n => .number n
  | .string s => .string s
  | .array _ => .sequence
  | .object _ => .map

/-- Refuses the value at the front. A leaf is taken before the place is told, a list or an object
is not. -/
def refuse (wanted : String) (b : UInt8) (rest : Octets) : Stop :=
  if Octets.char b = '[' then .misfit (.wrongKind .sequence wanted) (b :: rest)
  else if Octets.char b = '{' then .misfit (.wrongKind .map wanted) (b :: rest)
  else
    match takeLeaf b rest with
    | .error stop => stop
    | .ok (v, rest) => .misfit (.wrongKind (.ofValue v) wanted) rest

namespace Decoder

/-- A string that `parse` turns into a value or refuses with a reason. -/
def parsed {α : Type} (wanted : String) (parse : String → Except String α) : Decoder α where
  take t :=
    match skipBlanks t with
    | [] => .error (.ahead .endInValue [])
    | b :: rest =>
      if Octets.char b = '"' then
        match takeString rest with
        | .error stop => .error stop
        | .ok (s, rest) =>
          match parse s with
          | .ok x => .ok (x, rest)
          | .error reason => .error (.misfit (.unreadable reason) rest)
      else .error (refuse wanted b rest)
  ofValue
    | .string s => (parse s).mapError .unreadable
    | v => .error (.wrongKind (.ofValue v) wanted)

/-- Any string. -/
def text : Decoder String := parsed "a string" .ok

/-- Any value, in which brackets are nested less than `depth` deep. -/
def value (depth : Nat) : Decoder Json where
  take := takeValue depth
  ofValue v := .ok v

/-- Null, or what `d` reads. -/
def optional {α : Type} (d : Decoder α) : Decoder (Option α) where
  take t :=
    match skipBlanks t with
    | b :: rest =>
      if Octets.char b = 'n' then (takeWord ['u', 'l', 'l'] rest).map (none, ·)
      else (d.take (b :: rest)).map fun (x, rest) => (some x, rest)
    | [] => (d.take []).map fun (x, rest) => (some x, rest)
  ofValue
    | .null => .ok none
    | v => (d.ofValue v).map some

end Decoder

/-! ## Fields -/

/-- A field of a record: its name, whether an object must have it, whether a list may end before
it, and how a value of it is put into the record. -/
structure Field (α : Type) where
  name : String
  required : Bool
  mayEndList : Bool
  decoder : Decoder (α → α)

namespace Field

/-- A field whose values `d` reads and `set` puts into the record. -/
def of {α β : Type} (name : String) (required mayEndList : Bool) (d : Decoder β)
    (set : β → α → α) : Field α where
  name
  required
  mayEndList
  decoder :=
    { take := fun t => (d.take t).map fun (x, rest) => (set x, rest)
      ofValue := fun v => (d.ofValue v).map set }

end Field

/-- How a record is read: what it is called, its fields in order, and what it is before any of
them is given. -/
structure Shape (α : Type) where
  title : String
  fields : List (Field α)
  blank : α

namespace Shape

variable {α : Type}

def field? (shape : Shape α) (name : String) : Option (Field α) :=
  shape.fields.find? (·.name = name)

/-- What a list of the fields is called. -/
def listTitle (shape : Shape α) : String :=
  s!"{shape.title} with {shape.fields.length} elements"

/-- The first field that an object must have and that is not among the names given. -/
def missing? (shape : Shape α) (given : List String) : Option (Field α) :=
  shape.fields.find? fun f => f.required && !given.contains f.name

/-! ## From a text -/

/-- Tells the place in the outermost value, if none was told. -/
def inside {β : Type} (place : Place) (r : Except Stop β) : Except Stop β :=
  r.mapError fun stop => { stop with within := stop.within.or (some place) }

/-- What is left once the end of an object, if it is next, was taken. -/
def leaveObject (t : Octets) : Octets :=
  match skipBlanks t with
  | b :: rest => if Octets.char b = '}' then rest else b :: rest
  | [] => []

/-- Takes the members of an object whose brace was taken, into a record that has the fields of
the names `given`. Every member takes an octet, so a text and one octet are turns enough. -/
def takeByName (shape : Shape α) : (turns : Octets) → Bool → List String → α → Reader α
  | [], _, _, _, t => .error (.ahead .endInObject t)
  | _ :: turns, later, given, record, t =>
    match nextName later t with
    | .error stop => .error stop
    | .ok none =>
      match shape.missing? given with
      | some f => .error (.misfit (.missingField f.name) (leaveObject t))
      | none => (takeObjectEnd t).map fun rest => (record, rest)
    | .ok (some (name, rest)) =>
      match shape.field? name with
      | none =>
        match takeColon rest with
        | .error stop => .error stop
        | .ok rest =>
          match skipValue rest with
          | .error stop => .error stop
          | .ok rest => takeByName shape turns true given record rest
      | some f =>
        if given.contains name then
          .error (.misfit (.repeatedField name) (leaveObject rest))
        else
          match takeColon rest with
          | .error stop => .error stop
          | .ok rest =>
            match inside (.member name) (f.decoder.take rest) with
            | .error stop => .error stop
            | .ok (set, rest) => takeByName shape turns true (name :: given) (set record) rest

/-- Takes the items of a list whose bracket was taken as the fields from the `index`-th on. -/
def takeInOrder (shape : Shape α) : List (Field α) → (index : Nat) → α → Reader α
  | [], _, record, t => (takeListEnd t).map fun rest => (record, rest)
  | f :: fields, index, record, t =>
    match nextItem (index ≠ 0) t with
    | .error stop => .error stop
    | .ok none =>
      if f.mayEndList then takeInOrder shape fields (index + 1) record t
      else
        let rest := (takeListEnd t).toOption.getD []
        .error (.misfit (.wrongLength index shape.listTitle) rest)
    | .ok (some t) =>
      match inside (.item index) (f.decoder.take t) with
      | .error stop => .error stop
      | .ok (set, rest) => takeInOrder shape fields (index + 1) (set record) rest

/-- Takes a record. -/
def take (shape : Shape α) : Reader α := fun t =>
  match skipBlanks t with
  | [] => .error (.ahead .endInValue [])
  | b :: rest =>
    if Octets.char b = '[' then takeInOrder shape shape.fields 0 shape.blank rest
    else if Octets.char b = '{' then
      takeByName shape (b :: rest) false [] shape.blank rest
    else .error (refuse shape.title b rest)

/-! ## From a value -/

/-- The record of an object's members, which have no name twice. -/
def ofMembers (shape : Shape α) (given : List String) (record : α) :
    List (String × Json) → Except Misfit α
  | [] =>
    match shape.missing? given with
    | some f => .error (.missingField f.name)
    | none => .ok record
  | (name, v) :: members =>
    match shape.field? name with
    | none => ofMembers shape given record members
    | some f =>
      match f.decoder.ofValue v with
      | .error misfit => .error misfit
      | .ok set => ofMembers shape (name :: given) (set record) members

/-- The record of a list's items, which are the fields from the `index`-th on. -/
def ofItems (shape : Shape α) (length : Nat) :
    List (Field α) → (index : Nat) → α → List Json → Except Misfit α
  | [], _, record, [] => .ok record
  | [], _, _, _ :: _ => .error (.wrongLength length "fewer elements in array")
  | f :: fields, index, record, [] =>
    if f.mayEndList then ofItems shape length fields (index + 1) record []
    else .error (.wrongLength index shape.listTitle)
  | f :: fields, index, record, v :: vs =>
    match f.decoder.ofValue v with
    | .error misfit => .error misfit
    | .ok set => ofItems shape length fields (index + 1) (set record) vs

/-- The record that a value is. -/
def ofValue (shape : Shape α) : Json → Except Misfit α
  | .object members => ofMembers shape [] shape.blank members
  | .array items => ofItems shape items.length shape.fields 0 shape.blank items
  | v => .error (.wrongKind (.ofValue v) shape.title)

end Shape

end Workspaces.Json
