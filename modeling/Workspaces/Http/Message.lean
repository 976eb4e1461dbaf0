-- HTTP messages, as far as the server looks at them.
import Workspaces.Envelope
import Workspaces.Text.Percent

namespace Workspaces.Http

/-! ## Requests -/

/-- What a request is for: the path and, behind a question mark, the query. -/
structure Target where
  path : Octets
  query : Octets
  deriving DecidableEq, Repr

namespace Target

/-- The part of an absolute address that follows the host, or the whole of any other. -/
def afterHost (t : Octets) : Octets :=
  match t with
  | [] => []
  | b :: _ =>
    if Octets.char b = '/' then t
    else
      let afterScheme := t.dropWhile fun b => Octets.char b ≠ ':'
      if Octets.ofString "://" <+: afterScheme then
        let rest := (afterScheme.drop 3).dropWhile fun b =>
          Octets.char b ≠ '/' ∧ Octets.char b ≠ '?'
        if rest.head?.any fun b => Octets.char b = '/' then rest else 0x2F :: rest
      else t

/-- Reads a target, relative to the server or absolute. A fragment counts for nothing. -/
def ofOctets (t : Octets) : Target :=
  let t := afterHost (t.takeWhile fun b => Octets.char b ≠ '#')
  { path := t.takeWhile fun b => Octets.char b ≠ '?'
    query := (t.dropWhile fun b => Octets.char b ≠ '?').drop 1 }

end Target

structure Request where
  method : String
  target : Target
  /-- Names and values in the order they were sent. Letters of names may be of either case. -/
  headers : List (String × Octets)
  body : Octets
  deriving DecidableEq, Repr

namespace Request

/-- The first value of a header, whose name is given in small letters. -/
def header? (r : Request) (name : String) : Option Octets :=
  (r.headers.find? fun h => h.1.toList.map Char.toLower = name.toList).map (·.2)

/-- The request with one value of a header, whose name is given in small letters, in place of those
it has. -/
def setHeader (r : Request) (name : String) (value : Octets) : Request :=
  { r with
    headers := r.headers.filter (fun h => h.1.toList.map Char.toLower ≠ name.toList) ++
      [(name, value)] }

end Request

/-! ## Responses -/

inductive Body where
  | empty
  | text (s : String)
  /-- A file that is served as it is, and whose content matters to nobody here. -/
  | file (name : String)
  deriving DecidableEq, Repr

structure Response where
  status : Nat
  /-- Names, in small letters, and values. A name may stand more than once. -/
  headers : List (String × String)
  body : Body
  deriving DecidableEq, Repr

namespace Response

/-- A response without a body. -/
def bare (status : Nat) : Response := ⟨status, [], .empty⟩

def withType (status : Nat) (mediaType : String) (body : Body) : Response :=
  ⟨status, [("content-type", mediaType)], body⟩

def ofJson (status : Nat) (v : Json) : Response :=
  withType status "application/json" (.text v.text)

/-- An envelope under a status. -/
def ofEnvelope (status : Nat) (e : Envelope) (now : Instant) : Response :=
  ofJson status (e.toJson now)

def ofFault (fault : Fault) (now : Instant) : Response :=
  ofEnvelope fault.status (.ofFault fault) now

def withHeaders (r : Response) (headers : List (String × String)) : Response :=
  { r with headers := r.headers ++ headers }

/-- The response with one value of a header in place of those it has. -/
def setHeader (r : Response) (name value : String) : Response :=
  { r with headers := r.headers.filter (·.1 ≠ name) ++ [(name, value)] }

def withoutBody (r : Response) : Response := { r with body := .empty }

end Response

end Workspaces.Http
