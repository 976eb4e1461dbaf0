-- Revisions: what a client sends to have some fields of a workspace changed.
import Workspaces.Workspace.Changes

namespace Workspaces

structure Revision where
  name : Option String
  description : Edit String
  icon : Edit String
  color : Edit String
  state : Option Json
  deriving DecidableEq, Repr

namespace Revision

/-- Whether the revision keeps every field. -/
def isEmpty (r : Revision) : Bool :=
  r.name = none && r.description = .keep && r.icon = .keep && r.color = .keep && r.state = none

/-! ## JSON -/

/-- The member of an edit: none to keep, null to clear. -/
def editMember (name : String) : Edit String → List (String × Json)
  | .keep => []
  | .clear => [(name, .null)]
  | .write x => [(name, .string x)]

/-- The revision as an object, members in the order of the fields. A name or a state that is
kept is written as null, which reads back as kept. -/
def toJson (r : Revision) : Json :=
  .object <|
    ("name", .ofText? r.name) :: (editMember "description" r.description ++
      editMember "icon" r.icon ++ editMember "color" r.color ++ [("state", r.state.getD .null)])

/-- How a revision is read: no member must be given, and of a list only the first item and the
last, which are kept when null. -/
def shape : Json.Shape Revision where
  title := "struct UpdateWorkspaceRequest"
  fields := [
    .of "name" false false (.optional .text) fun x r => { r with name := x },
    .of "description" false true (.optional .text) fun x r =>
      { r with description := .replace x },
    .of "icon" false true (.optional .text) fun x r => { r with icon := .replace x },
    .of "color" false true (.optional .text) fun x r => { r with color := .replace x },
    .of "state" false false (.optional (.value (Json.depthLimit - 1))) fun x r =>
      { r with state := x }]
  blank := ⟨none, .keep, .keep, .keep, none⟩

/-- The revision that a whole text is. -/
def ofOctets (t : Octets) : Except Json.Stop Revision := Json.readWhole shape.take t

end Revision

end Workspaces
