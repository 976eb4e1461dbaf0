-- The envelope in which every answer about workspaces is sent.
import Workspaces.Listing.Paging
import Workspaces.Service

namespace Workspaces

/-! ## Parts -/

/-- A member that is left out when there is nothing in it. -/
def optionalMember {α : Type} (name : String) (f : α → Json) : Option α → List (String × Json)
  | none => []
  | some x => [(name, f x)]

def Paging.toJson (p : Paging) : Json :=
  .object [
    ("skip", .int p.skip),
    ("limit", .int p.limit),
    ("page", .int p.page),
    ("total_pages", .int p.totalPages),
    ("has_next", .bool p.hasNext),
    ("has_prev", .bool p.hasPrevious)]

def Detail.toJson (d : Detail) : Json :=
  .object <| optionalMember "field" .string d.field ++
    [("code", .string d.code), ("message", .string d.message)]

/-- What is told about an answer beside its data. -/
structure Metadata where
  requestId : Option String
  paging : Option Paging
  total : Option Int
  deriving DecidableEq, Repr

def Metadata.toJson (m : Metadata) : Json :=
  .object <| optionalMember "request_id" .string m.requestId ++
    optionalMember "pagination" Paging.toJson m.paging ++ optionalMember "total_count" .int m.total

/-! ## Envelopes -/

structure Envelope where
  success : Bool
  code : Nat
  message : String
  data : Option Json
  metadata : Option Metadata
  errors : Option (List Detail)
  deriving DecidableEq, Repr

namespace Envelope

/-- An answer without data. -/
def ok (message : String) : Envelope := ⟨true, 200, message, none, none, none⟩

def withData (data : Json) (message : String) : Envelope :=
  ⟨true, 200, message, some data, none, none⟩

def created (data : Json) (message : String) : Envelope :=
  ⟨true, 201, message, some data, none, none⟩

def withMetadata (data : Json) (message : String) (metadata : Metadata) : Envelope :=
  ⟨true, 200, message, some data, some metadata, none⟩

def failure (code : Nat) (message : String) (errors : List Detail) : Envelope :=
  ⟨false, code, message, none, none, some errors⟩

/-- A failure with one error, which repeats the message. -/
def singleFailure (code : Nat) (message errorCode : String) (field : Option String) : Envelope :=
  failure code message [⟨field, errorCode, message⟩]

def badRequest (message : String) : Envelope := singleFailure 400 message "BAD_REQUEST" none

def notFound (message : String) : Envelope := singleFailure 404 message "NOT_FOUND" none

def conflict (message : String) (field : Option String) (errorCode : String) : Envelope :=
  singleFailure 409 message errorCode field

def internalError (message : String) : Envelope :=
  singleFailure 500 message "INTERNAL_ERROR" none

/-- What a client is told of a fault. Of the faults that are not the client's own it learns only
the kind. -/
def ofFault : Fault → Envelope
  | .database _ => internalError "Database error"
  | .pool _ => internalError "Connection error"
  | .validation message [] => badRequest message
  | .validation message details => failure 400 message details
  | .notFound resource => notFound (resource ++ " not found")
  | .conflict message field code => conflict message field (code.getD "CONFLICT")
  | .config _ => internalError "Configuration error"
  | .internal _ => internalError "Internal server error"

/-- The envelope as an object. Members with nothing in them are left out. -/
def toJson (e : Envelope) (timestamp : Instant) : Json :=
  .object <|
    [("success", .bool e.success), ("code", .int e.code), ("message", .string e.message)] ++
      optionalMember "data" id e.data ++ optionalMember "meta" Metadata.toJson e.metadata ++
      optionalMember "errors" (fun details => .array (details.map Detail.toJson)) e.errors ++
      [("timestamp", .string timestamp.offsetText)]

end Envelope

end Workspaces
