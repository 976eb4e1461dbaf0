-- Faults: why a request is not carried out.

namespace Workspaces

/-- One thing that is wrong with a request. -/
structure Detail where
  field : Option String
  code : String
  message : String
  deriving DecidableEq, Repr

/-- What went wrong in a database. -/
inductive DatabaseFault where
  | recordNotFound
  | rolledBack
  | uniqueViolation (message : String)
  /-- Whatever else, by what it says of itself. -/
  | other (message : String)
  deriving DecidableEq, Repr

def DatabaseFault.message : DatabaseFault → String
  | recordNotFound => "Record not found"
  | rolledBack => "You have asked diesel to rollback the transaction"
  | uniqueViolation message | other message => message

inductive Fault where
  | database (cause : DatabaseFault)
  | pool (reason : String)
  | validation (message : String) (details : List Detail)
  | notFound (resource : String)
  | conflict (message : String) (field code : Option String)
  | config (reason : String)
  | internal (reason : String)
  deriving DecidableEq, Repr

namespace Fault

/-- A request that is refused for one reason, which its message tells. -/
def invalid (message : String) : Fault := .validation message []

/-- What a log would say. -/
def message : Fault → String
  | database cause => "Database error: " ++ cause.message
  | pool reason => "Pool error: " ++ reason
  | validation message _ => "Validation error: " ++ message
  | notFound resource => "Not found: " ++ resource
  | conflict message _ _ => "Conflict: " ++ message
  | config reason => "Configuration error: " ++ reason
  | internal reason => "Internal server error: " ++ reason

/-- The HTTP status of the answer to the request. -/
def status : Fault → Nat
  | validation .. => 400
  | notFound .. => 404
  | conflict .. => 409
  | database .. | pool .. | config .. | internal .. => 500

end Fault

end Workspaces
