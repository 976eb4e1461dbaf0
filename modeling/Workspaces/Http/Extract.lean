-- What a handler is given of a request: an id from the path, a body of JSON, a window from the
-- query.
import Workspaces.Http.MediaType
import Workspaces.Http.Message

namespace Workspaces.Http

/-! ## Bodies -/

/-- Why the body of a request is refused. -/
inductive BodyFault where
  | noJsonType
  | misfit (place : Option Json.Place) (message : String)
  | malformed
  deriving DecidableEq, Repr

namespace BodyFault

/-- The place of a value that does not fit, as the message tells it. -/
def placeText : Option Json.Place → String
  | none => ""
  | some (.member name) => name ++ ": "
  | some (.item index) => s!"[{index}]: "

def fault : BodyFault → Fault
  | noJsonType => .invalid "Expected request with `Content-Type: application/json`"
  | misfit place message =>
    .invalid ("Invalid request body: Failed to deserialize the JSON body into the target type: " ++
      placeText place ++ message)
  | malformed => .invalid "Invalid JSON format"

end BodyFault

/-- The most octets that a body may have. -/
def maxBodyLength : Nat := 2097152

/-- Whether the first content type that a request gives is one of JSON. -/
def Request.announcesJson (r : Request) : Bool :=
  (r.header? "content-type").any MediaType.isJson

/-- The value that the body of a request begins with. What follows the value is not looked at. -/
def Request.json {α : Type} (reader : Json.Reader α) (r : Request) : Except BodyFault α :=
  if !r.announcesJson then .error .noJsonType
  else if maxBodyLength < r.body.length then .error .malformed
  else
    match reader r.body with
    | .ok (x, _) => .ok x
    | .error stop =>
      match stop.cause with
      | .misfit _ => .error (.misfit stop.within (stop.message r.body))
      | .flaw _ => .error .malformed

/-! ## Queries -/

/-- Why the query of a request is refused. -/
inductive QueryFault where
  | repeated (field : String)
  | number (cause : NumeralFault)
  deriving DecidableEq, Repr

namespace QueryFault

def message : QueryFault → String
  | repeated field => "duplicate field `" ++ field ++ "`"
  | number cause => cause.message

def fault (f : QueryFault) : Fault :=
  .invalid ("Invalid query parameters: Failed to deserialize query string: " ++ f.message)

end QueryFault

/-- The window that a query asks for. -/
structure WindowQuery where
  skip : Option Int
  limit : Option Int
  deriving DecidableEq, Repr

namespace WindowQuery

/-- Reads a number of a query that must not have been given before. -/
def readOnce (field : String) (given : Option Int) (value : Octets) : Except QueryFault Int :=
  if given.isSome then .error (.repeated field)
  else (Numeral.read (.signed 64) value).mapError .number

/-- Takes the fields from names and values, in order; other names are passed over. -/
def takeFields (q : WindowQuery) : List (Octets × Octets) → Except QueryFault WindowQuery
  | [] => .ok q
  | (name, value) :: fields =>
    if name = Octets.ofString "skip" then
      match readOnce "skip" q.skip value with
      | .error fault => .error fault
      | .ok n => takeFields { q with skip := some n } fields
    else if name = Octets.ofString "limit" then
      match readOnce "limit" q.limit value with
      | .error fault => .error fault
      | .ok n => takeFields { q with limit := some n } fields
    else takeFields q fields

/-- The window that a query string asks for. -/
def ofOctets (query : Octets) : Except QueryFault WindowQuery :=
  takeFields ⟨none, none⟩ (Percent.form query)

end WindowQuery

/-! ## Ids -/

/-- The id in a path, decoded. A text that spells no id is nobody's; octets that are no text are
not looked at any further. -/
def pathId? (segment : Octets) : Option (Option Uuid) :=
  let decoded := Percent.decode segment
  (Octets.text? decoded).map fun _ => Uuid.ofOctets? decoded

end Workspaces.Http
