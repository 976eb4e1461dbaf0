-- Workspaces: the record that the service keeps.
import Workspaces.Instant.Timestamp
import Workspaces.Uuid.Spelling

namespace Workspaces

structure Workspace where
  id : Uuid
  name : String
  description : Option String
  icon : Option String
  color : Option String
  /-- Whatever the client keeps here. The service only ever stores objects. -/
  state : Json
  createdAt : Instant
  updatedAt : Instant
  deriving DecidableEq, Repr

namespace Workspace

/-! ## JSON -/

/-- The record as an object, members in the order of the fields. -/
def toJson (w : Workspace) : Json :=
  .object [
    ("id", .string w.id.text),
    ("name", .string w.name),
    ("description", .ofText? w.description),
    ("icon", .ofText? w.icon),
    ("color", .ofText? w.color),
    ("state", w.state),
    ("created_at", .string w.createdAt.text),
    ("updated_at", .string w.updatedAt.text)]

/-- A record with nothing in it, from which reading starts. -/
def blank : Workspace :=
  ⟨.nil, "", none, none, none, .null, ⟨⟨0, 1, 1⟩, 0, 0⟩, ⟨⟨0, 1, 1⟩, 0, 0⟩⟩

/-- How a record is read. Its state is nested one level below it. -/
def shape : Json.Shape Workspace where
  title := "struct Workspace"
  fields := [
    .of "id" true false Uuid.decoder fun x w => { w with id := x },
    .of "name" true false .text fun x w => { w with name := x },
    .of "description" false false (.optional .text) fun x w => { w with description := x },
    .of "icon" false false (.optional .text) fun x w => { w with icon := x },
    .of "color" false false (.optional .text) fun x w => { w with color := x },
    .of "state" true false (.value (Json.depthLimit - 1)) fun x w => { w with state := x },
    .of "created_at" true false Timestamp.decoder fun x w => { w with createdAt := x },
    .of "updated_at" true false Timestamp.decoder fun x w => { w with updatedAt := x }]
  blank

/-- The record that a whole text is. -/
def ofOctets (t : Octets) : Except Json.Stop Workspace := Json.readWhole shape.take t

/-- The record that a value is. -/
def ofJson (v : Json) : Except Json.Misfit Workspace := shape.ofValue v

end Workspace

end Workspaces
