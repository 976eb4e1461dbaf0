-- Changes to a workspace: each field keeps its value or takes a new one.
import Workspaces.Workspace.Basic

namespace Workspaces

/-- What becomes of a value that may be missing. To clear it is not the same as to keep it. -/
inductive Edit (α : Type) where
  | keep
  | clear
  | write (x : α)
  deriving DecidableEq, Repr

namespace Edit

variable {α : Type}

/-- The value after the edit. -/
def apply : Edit α → Option α → Option α
  | keep, old => old
  | clear, _ => none
  | write x, _ => some x

/-- The edit that clears the value or writes one. -/
def replace : Option α → Edit α
  | none => clear
  | some x => write x

/-- The value that the edit writes. -/
def written? : Edit α → Option α
  | write x => some x
  | _ => none

end Edit

structure Changes where
  name : Option String
  description : Edit String
  icon : Edit String
  color : Edit String
  state : Option Json
  updatedAt : Option Instant
  deriving DecidableEq, Repr

namespace Changes

/-- The changes that keep every field. -/
def none : Changes := ⟨.none, .keep, .keep, .keep, .none, .none⟩

/-- The workspace with the changes made. Its id and the time of its creation stay. -/
def apply (c : Changes) (w : Workspace) : Workspace :=
  { w with
    name := c.name.getD w.name
    description := c.description.apply w.description
    icon := c.icon.apply w.icon
    color := c.color.apply w.color
    state := c.state.getD w.state
    updatedAt := c.updatedAt.getD w.updatedAt }

end Changes

end Workspaces
