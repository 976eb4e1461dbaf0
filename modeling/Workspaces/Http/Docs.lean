-- The pages that document the interface.
import Workspaces.Http.Message

namespace Workspaces.Http.Docs

/-- The front page. -/
def front : String := "index.html"

/-- The files of the documentation with their media types. -/
def files : List (String × String) := [
  ("favicon-16x16.png", "image/png"),
  ("favicon-32x32.png", "image/png"),
  ("index.css", "text/css"),
  ("index.html", "text/html"),
  ("oauth2-redirect.html", "text/html"),
  ("swagger-initializer.js", "text/javascript"),
  ("swagger-ui-bundle.js", "text/javascript"),
  ("swagger-ui-bundle.js.map", "text/plain"),
  ("swagger-ui-es-bundle-core.js", "text/javascript"),
  ("swagger-ui-es-bundle-core.js.map", "text/plain"),
  ("swagger-ui-es-bundle.js", "text/javascript"),
  ("swagger-ui-es-bundle.js.map", "text/plain"),
  ("swagger-ui-standalone-preset.js", "text/javascript"),
  ("swagger-ui-standalone-preset.js.map", "text/plain"),
  ("swagger-ui.css", "text/css"),
  ("swagger-ui.css.map", "text/plain"),
  ("swagger-ui.js", "text/javascript"),
  ("swagger-ui.js.map", "text/plain")]

/-! ## Names as paths -/

/-- Where a path leads. -/
inductive Place where
  /-- A folder: that of the documentation, or the one so many levels above it. -/
  | folder (above : Nat)
  | file (name mediaType : String)
  deriving DecidableEq, Repr

/-- The names of the folder of the documentation and of those it stands in, which lead back to it
from above. -/
def folderNames : List String := ["dist", "swagger-ui-5.3.1", "out"]

/-- Where one segment of a path leads. An empty segment and a point stay in a folder; behind a
file there is nothing. -/
def Place.step? : Place → String → Option Place
  | file _ _, _ => none
  | place, "" => some place
  | place, "." => some place
  | folder above, ".." => some (folder (above + 1))
  | folder 0, name => (files.find? (·.1 = name)).map fun f => file f.1 f.2
  | folder (above + 1), name =>
    if folderNames[above]? = some name then some (folder above) else none

/-- Where a path leads from the folder. A backslash is a slash; a path that starts with one starts
outside. -/
def resolve? (path : String) : Option Place :=
  let path := path.toList.map fun c => if c = '\\' then '/' else c
  if path.head? = some '/' then none
  else ((path.splitOn '/').map String.ofList).foldlM Place.step? (.folder 0)

/-! ## Answers -/

/-- The path that a percent-encoded name asks for: the front page unless there is a name. -/
def pathOf (name : Octets) : String :=
  match Octets.text? (Percent.decode name) with
  | none | some "" | some "/" => front
  | some name => name

/-- The answer to a request for a page. -/
def page (name : Octets) : Response :=
  match resolve? (pathOf name) with
  | some (.file name mediaType) => .withType 200 mediaType (.file name)
  | _ => .bare 404

/-- The answer that leads to the front page. -/
def redirect : Response := ⟨303, [("location", "/docs/")], .empty⟩

/-- The page that shows the whole description at once. -/
def reference : Response := .withType 200 "text/html; charset=utf-8" (.file "redoc.html")

end Workspaces.Http.Docs
