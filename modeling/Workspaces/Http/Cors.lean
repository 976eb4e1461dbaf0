-- Cross-origin requests: which origins may read the answers.
import Workspaces.Config.Basic
import Workspaces.Http.RequestId

namespace Workspaces.Http.Cors

/-! ## Origins -/

/-- Stands for any origin. -/
def wildcard : String := "*"

/-- Which origins may read the answers. -/
inductive Origins where
  | any
  | listed (origins : List String)
  deriving DecidableEq, Repr

namespace Origins

/-- The origins of a list. To put the wildcard on a list is a defect of the program, with which no
server comes up. -/
def ofList? (origins : List String) : Option Origins :=
  if origins.contains wildcard then none else some (listed origins)

/-- The origins that settings allow. On a list only those count that can stand in a header. -/
def ofConfig? (c : Config) : Option Origins :=
  if c.allowsAnyOrigin then some any else ofList? (c.corsOrigins.filterMap Config.headerText?)

/-- What a request of an origin is told: the wildcard, or its own origin if that is on the list,
octet by octet. -/
def answer? (origin : Option Octets) : Origins → Option String
  | any => some wildcard
  | listed origins =>
    origin.bind fun origin => origins.find? fun listed => Octets.ofString listed = origin

end Origins

/-! ## Headers -/

def grantName : String := "access-control-allow-origin"

/-- What is granted to a request. A server that does not come up grants nothing. -/
def grant (c : Config) (r : Request) : List (String × String) :=
  (((Origins.ofConfig? c).bind (·.answer? (r.header? "origin"))).map fun origin =>
    (grantName, origin)).toList

/-- What answers depend on. -/
def vary : List (String × String) := [
  ("vary", "origin"),
  ("vary", "access-control-request-method"),
  ("vary", "access-control-request-headers")]

/-- The headers of an answer other than to a preflight. -/
def headers (c : Config) (r : Request) : List (String × String) :=
  vary ++ grant c r ++ [("access-control-expose-headers", RequestId.headerName)]

/-- The answer to a preflight, on a route that allows the methods `allow`, if it is a route. -/
def preflight (c : Config) (r : Request) (allow : Option String) : Response where
  status := 200
  headers := vary ++ grant c r ++
    [("access-control-allow-methods", "*"), ("access-control-allow-headers", "*")] ++
    (allow.map fun methods => ("allow", methods)).toList
  body := .empty

end Workspaces.Http.Cors
