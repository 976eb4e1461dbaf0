-- Windows: the part of a listing that a client asks for.
import Workspaces.Fault

namespace Workspaces

/-- So many workspaces to skip, and at most so many to show. -/
structure Window where
  skip : Int
  limit : Int
  deriving DecidableEq, Repr

namespace Window

/-- The most workspaces that one page shows, and as many as it shows unless told otherwise. -/
def maxLimit : Int := 100

/-- The window that a client asks for: by default nothing is skipped, and a limit that is too
high is lowered. -/
def ofRequest (skip limit : Option Int) : Except Fault Window :=
  let skip := skip.getD 0
  let limit := limit.getD maxLimit
  if skip < 0 then .error (.invalid "skip must be >= 0")
  else if limit < 1 then .error (.invalid "limit must be >= 1")
  else .ok ⟨skip, min limit maxLimit⟩

end Window

end Workspaces
