-- Request ids: the label under which an exchange is tracked.
import Workspaces.Config.Basic
import Workspaces.Http.Message

namespace Workspaces.Http.RequestId

def headerName : String := "x-request-id"

/-- The text of octets that all show or are blank: visible ASCII, spaces and tabs. -/
def visible? (t : Octets) : Option String :=
  if t.all fun b => b = 0x09 || (0x20 ≤ b && b ≤ 0x7E) then
    some (String.ofList (t.map Octets.char))
  else none

/-- The id that a client sent: the first value of the header, if it is visible. -/
def sent? (r : Request) : Option String := (r.header? headerName).bind visible?

/-- The longest id that is taken over. -/
def maxLength : Nat := 128

/-- The id of an exchange: the one sent if it is neither empty nor too long, otherwise a fresh
one. -/
def choose (r : Request) (fresh : Uuid) : String :=
  match sent? r with
  | some id => if id.toList ≠ [] ∧ id.toList.length ≤ maxLength then id else fresh.text
  | none => fresh.text

/-- The id as the value of a header. One that can be none is replaced. -/
def headerValue (id : String) : String := (Config.headerText? id).getD "invalid"

end Workspaces.Http.RequestId
