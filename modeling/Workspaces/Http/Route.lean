-- Routes: what the paths of the server stand for.
import Workspaces.Http.Message

namespace Workspaces.Http

inductive Route where
  | health
  /-- All workspaces. -/
  | collection
  /-- One workspace, by the percent-encoded text of its id. -/
  | item (id : Octets)
  | document
  | docs
  /-- A page of the documentation, by its percent-encoded name; the empty name is the front. -/
  | docsPage (name : Octets)
  | reference
  deriving DecidableEq, Repr

namespace Route

/-- What follows a text at the front of a path. -/
def after? (front : String) (path : Octets) : Option Octets :=
  let front := Octets.ofString front
  if front <+: path then some (path.drop front.length) else none

/-- The route of a path within the interface itself. Paths are compared as they are sent, without
decoding. -/
def ofApiPath? (path : Octets) : Option Route :=
  if path = Octets.ofString "/health" then some health
  else
    match after? "/api/v1/workspaces" path with
    | none => none
    | some [] => some collection
    | some (slash :: id) =>
      if slash = 0x2F ∧ id ≠ [] ∧ 0x2F ∉ id then some (item id) else none

/-- The route of a path within the documentation. -/
def ofDocsPath? (path : Octets) : Option Route :=
  if path = Octets.ofString "/openapi.json" then some document
  else if path = Octets.ofString "/docs" then some docs
  else if path = Octets.ofString "/redoc" then some reference
  else (after? "/docs/" path).map docsPage

/-- The route of a path. The documentation can be switched off. -/
def ofPath? (docsEnabled : Bool) (path : Octets) : Option Route :=
  (ofApiPath? path).or (if docsEnabled then ofDocsPath? path else none)

/-- The methods that a route allows. -/
def methods : Route → List String
  | collection => ["GET", "HEAD", "POST"]
  | item _ => ["GET", "HEAD", "PATCH", "PUT", "DELETE"]
  | _ => ["GET", "HEAD"]

/-- The methods as a header lists them. -/
def allow (route : Route) : String := ",".intercalate route.methods

end Route

end Workspaces.Http
