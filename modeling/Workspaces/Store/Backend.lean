-- Backends: where workspaces are kept.
import Workspaces.Store.Pool

namespace Workspaces

/-- A place for workspaces, with the name that the health check shows. -/
inductive Backend where
  | memory
  | postgres
  deriving DecidableEq, Repr

def Backend.name : Backend → String
  | memory => "memory"
  | postgres => "postgres"

/-- The backend that settings ask for: the database if one is set and a pool of connections to it
can be built, and memory if none is. -/
def Backend.ofConfig (b : PoolBuilder) (c : Config) : Except PoolFailure Backend :=
  match c.database? with
  | none => .ok memory
  | some d => (b.pool d).map fun _ => postgres

end Workspaces
