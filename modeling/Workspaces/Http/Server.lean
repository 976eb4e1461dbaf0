-- The server: from a request to its answer, by way of calls of the store.
import Workspaces.Http.Cors
import Workspaces.Http.Docs
import Workspaces.Http.Extract
import Workspaces.Http.Route
import Workspaces.OpenApi
import Workspaces.Store.Backend

namespace Workspaces.Http

/-- What an exchange draws on beside the request and the store. -/
structure Occasion extends Workspaces.Occasion where
  freshRequestId : Uuid
  deriving DecidableEq, Repr

/-- What comes of a request: an answer, or an operation that has no result and takes the exchange
down with it. -/
abbrev Outcome := Except ArithmeticFault Response

namespace Server

/-! ## Answers -/

/-- The answer to a service request. -/
def respond {α : Type} (now : Instant) (status : Nat) (envelope : α → Envelope) :
    Except Fault α → Outcome
  | .ok x => .ok (.ofEnvelope status (envelope x) now)
  | .error fault => .ok (.ofFault fault now)

/-- The answer to a path whose id is no text. -/
def undecodableId : Response :=
  .withType 400 "text/plain; charset=utf-8"
    (.text "Invalid URL: Invalid UTF-8 in `workspace_id`")

def routeNotFound (now : Instant) : Response :=
  .ofEnvelope 404 (.notFound "Route not found") now

def methodNotAllowed (route : Route) : Response := ⟨405, [("allow", route.allow)], .empty⟩

/-! ## Handlers -/

def create (o : Occasion) (r : Request) : Dialogue Outcome :=
  match r.json Draft.shape.take with
  | .error fault => .answer (.ok (.ofFault fault.fault o.now))
  | .ok draft =>
    (Service.create o.toOccasion draft).map <|
      respond o.now 201 fun w => .created w.toJson "Workspace created successfully"

/-- The envelope of a page, or the operation on its numbers that has no result. -/
def pageEnvelope (requestId : Option String) (p : Page) : Except ArithmeticFault Envelope :=
  (Paging.ofWindow p.window.skip p.window.limit p.total).map fun paging =>
    .withMetadata (.array (p.items.map Workspace.toJson)) "Workspaces retrieved successfully"
      ⟨requestId, some paging, some p.total⟩

def list (o : Occasion) (requestId : Option String) (r : Request) : Dialogue Outcome :=
  match WindowQuery.ofOctets r.target.query with
  | .error fault => .answer (.ok (.ofFault fault.fault o.now))
  | .ok q =>
    (Service.list q.skip q.limit).map fun
      | .error fault => .ok (.ofFault fault o.now)
      | .ok page => (pageEnvelope requestId page).map fun e => .ofEnvelope 200 e o.now

/-- Hands the id of a path to a handler, if it is one. -/
def withId (o : Occasion) (segment : Octets) (f : Uuid → Dialogue Outcome) : Dialogue Outcome :=
  match pathId? segment with
  | none => .answer (.ok undecodableId)
  | some none => .answer (.ok (.ofFault .noWorkspace o.now))
  | some (some id) => f id

def get (o : Occasion) (segment : Octets) : Dialogue Outcome :=
  withId o segment fun id =>
    (Service.get id).map <|
      respond o.now 200 fun w => .withData w.toJson "Workspace retrieved successfully"

/-- The body is read before the id is. -/
def update (o : Occasion) (segment : Octets) (r : Request) : Dialogue Outcome :=
  match pathId? segment with
  | none => .answer (.ok undecodableId)
  | some _ =>
    match r.json Revision.shape.take with
    | .error fault => .answer (.ok (.ofFault fault.fault o.now))
    | .ok revision =>
      withId o segment fun id =>
        (Service.update o.now id revision).map <|
          respond o.now 200 fun w => .withData w.toJson "Workspace updated successfully"

def delete (o : Occasion) (segment : Octets) : Dialogue Outcome :=
  withId o segment fun id =>
    (Service.delete id).map <| respond o.now 200 fun _ => .ok "Workspace deleted successfully"

/-- How the store is, with the name of the backend. -/
def health : Dialogue Outcome :=
  .call .ping fun reply =>
    let (status, word) := match reply with
      | .ok () => (200, "healthy")
      | .error _ => (503, "unhealthy")
    .answer (.ok (.ofJson status
      (.object [("status", .string word), ("storage", .string Backend.memory.name)])))

/-! ## Dispatch -/

/-- The answer to GET on a route. -/
def getRoute (o : Occasion) (requestId : Option String) (r : Request) : Route → Dialogue Outcome
  | .health => health
  | .collection => list o requestId r
  | .item segment => get o segment
  | .document => .answer (.ok (.ofJson 200 OpenApi.document))
  | .docs => .answer (.ok Docs.redirect)
  | .docsPage name => .answer (.ok (Docs.page name))
  | .reference => .answer (.ok Docs.reference)

/-- The answer of a route. HEAD is answered as GET is, without the body. -/
def handle (o : Occasion) (requestId : Option String) (r : Request) (route : Route) :
    Dialogue Outcome :=
  match r.method, route with
  | "GET", _ => getRoute o requestId r route
  | "HEAD", _ => (getRoute o requestId r route).map fun outcome => outcome.map (·.withoutBody)
  | "POST", .collection => create o r
  | "PATCH", .item segment | "PUT", .item segment => update o segment r
  | "DELETE", .item segment => delete o segment
  | _, _ => .answer (.ok (methodNotAllowed route))

/-- The answer with what is granted to the origin of the request. A preflight goes no further. -/
def answer (c : Config) (o : Occasion) (r : Request) : Dialogue Outcome :=
  let route := Route.ofPath? c.docsEnabled r.target.path
  if r.method = "OPTIONS" then .answer (.ok (Cors.preflight c r (route.map Route.allow)))
  else
    let outcome :=
      match route with
      | some route => handle o (RequestId.sent? r) r route
      | none => .answer (.ok (routeNotFound o.now))
    outcome.map fun outcome => outcome.map (·.withHeaders (Cors.headers c r))

/-- Every answer carries the id of its exchange. -/
def withRequestId (id : String) (r : Response) : Response := r.setHeader RequestId.headerName id

/-- The answer to a request, held with a store. The id of the exchange is put in place of what the
request has for one, and is read there again by whoever tells it. -/
def serve (c : Config) (o : Occasion) (r : Request) : Dialogue Outcome :=
  let id := RequestId.headerValue (RequestId.choose r o.freshRequestId)
  (answer c o (r.setHeader RequestId.headerName (Octets.ofString id))).map fun outcome =>
    outcome.map (withRequestId id)

end Server

end Workspaces.Http
