-- Drafts: what a client sends to have a workspace created.
import Workspaces.Workspace.Basic

namespace Workspaces

structure Draft where
  name : String
  description : Option String
  icon : Option String
  color : Option String
  state : Option Json
  deriving DecidableEq, Repr

namespace Draft

/-- The draft as an object, members in the order of the fields. -/
def toJson (d : Draft) : Json :=
  .object [
    ("name", .string d.name),
    ("description", .ofText? d.description),
    ("icon", .ofText? d.icon),
    ("color", .ofText? d.color),
    ("state", d.state.getD .null)]

/-- How a draft is read: only the name must be given, but a list gives every field. -/
def shape : Json.Shape Draft where
  title := "struct CreateWorkspaceRequest"
  fields := [
    .of "name" true false .text fun x d => { d with name := x },
    .of "description" false false (.optional .text) fun x d => { d with description := x },
    .of "icon" false false (.optional .text) fun x d => { d with icon := x },
    .of "color" false false (.optional .text) fun x d => { d with color := x },
    .of "state" false false (.optional (.value (Json.depthLimit - 1))) fun x d =>
      { d with state := x }]
  blank := ⟨"", none, none, none, none⟩

/-- The draft that a whole text is. -/
def ofOctets (t : Octets) : Except Json.Stop Draft := Json.readWhole shape.take t

end Draft

end Workspaces
