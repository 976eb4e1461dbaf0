-- The service: what is done with workspaces, and which calls of the store it takes.
import Workspaces.Listing.Window
import Workspaces.Rules
import Workspaces.Store.Call

namespace Workspaces

/-- A workspace that is not there. -/
def Fault.noWorkspace : Fault := .notFound "workspace"

/-- A window of the listing, with the number of all workspaces. -/
structure Page where
  items : List Workspace
  window : Window
  total : Int
  deriving DecidableEq, Repr

/-- What a service request draws on beside the store: the time, and an id that no workspace has
had. -/
structure Occasion where
  now : Instant
  freshId : Uuid
  deriving DecidableEq, Repr

/-- The workspace that a draft asks for. Its name is trimmed, and its state is an empty object
unless one is given. -/
def Draft.workspace (d : Draft) (o : Occasion) : Workspace where
  id := o.freshId
  name := Text.trim d.name
  description := d.description
  icon := d.icon
  color := d.color
  state := d.state.getD (.object [])
  createdAt := o.now
  updatedAt := o.now

/-- The changes that a revision asks for. A new name is trimmed. -/
def Revision.changes (r : Revision) (now : Instant) : Changes where
  name := r.name.map Text.trim
  description := r.description
  icon := r.icon
  color := r.color
  state := r.state
  updatedAt := some now

namespace Service

/-- A request of the service, held with the store. -/
abbrev Task (α : Type) := Dialogue (Except Fault α)

/-- The workspace that a reply gives, or the fault of its absence. -/
def found : Except Fault (Option Workspace) → Except Fault Workspace
  | .error fault => .error fault
  | .ok (some w) => .ok w
  | .ok none => .error .noWorkspace

def create (o : Occasion) (d : Draft) : Task Workspace :=
  match d.check with
  | .error fault => .answer (.error fault)
  | .ok () => .call (.insert (d.workspace o)) .answer

def get (id : Uuid) : Task Workspace := .call (.find id) fun reply => .answer (found reply)

/-- A revision that keeps every field only looks the workspace up. -/
def update (now : Instant) (id : Uuid) (r : Revision) : Task Workspace :=
  match r.check with
  | .error fault => .answer (.error fault)
  | .ok () =>
    if r.isEmpty then get id
    else .call (.update id (r.changes now)) fun reply => .answer (found reply)

def delete (id : Uuid) : Task Unit :=
  .call (.delete id) fun
    | .error fault => .answer (.error fault)
    | .ok true => .answer (.ok ())
    | .ok false => .answer (.error .noWorkspace)

/-- The page is listed first and counted after that. -/
def list (skip limit : Option Int) : Task Page :=
  match Window.ofRequest skip limit with
  | .error fault => .answer (.error fault)
  | .ok window =>
    .call (.list window.skip window.limit) fun
      | .error fault => .answer (.error fault)
      | .ok items =>
        .call .count fun
          | .error fault => .answer (.error fault)
          | .ok total => .answer (.ok ⟨items, window, total⟩)

end Service

end Workspaces
