-- The rules that the fields of drafts and revisions keep.
import Workspaces.Fault
import Workspaces.Workspace.Draft
import Workspaces.Workspace.Revision

namespace Workspaces

/-! ## Breaches -/

/-- How a field breaks its rule. -/
inductive Breach where
  | nameBlank
  | nameTooLong
  | nameHasControl
  | tooLong (limit : Nat)
  | stateNoObject
  deriving DecidableEq, Repr

namespace Rules

/-! ## Limits -/

def nameLimit : Nat := 255

def descriptionLimit : Nat := 2000

def iconLimit : Nat := 100

def colorLimit : Nat := 50

end Rules

namespace Breach

def code : Breach → String
  | nameBlank => "required"
  | nameTooLong | tooLong _ => "too_long"
  | nameHasControl => "invalid_characters"
  | stateNoObject => "invalid_state"

def message : Breach → String
  | nameBlank => "Workspace name is required"
  | nameTooLong => s!"Workspace name must be at most {Rules.nameLimit} characters"
  | nameHasControl => "Workspace name cannot contain control characters"
  | tooLong limit => s!"Must be at most {limit} characters"
  | stateNoObject => "Workspace state must be a JSON object"

/-- The breach of a field as a revision tells it. -/
def detail (field : String) (b : Breach) : Detail := ⟨some field, b.code, b.message⟩

/-- The breach of a field as a draft tells it: a limit is not named. -/
def briefDetail (field : String) (b : Breach) : Detail :=
  match b with
  | tooLong _ => ⟨some field, b.code, "Validation failed for field: " ++ field⟩
  | _ => b.detail field

end Breach

namespace Rules

/-! ## Rules -/

/-- A name has 1 to 255 characters and no control character once it is trimmed. -/
def checkName (name : String) : Option Breach :=
  let trimmed := (Text.trim name).toList
  if trimmed = [] then some .nameBlank
  else if nameLimit < trimmed.length then some .nameTooLong
  else if trimmed.any Text.isControl then some .nameHasControl
  else none

/-- A text has at most `limit` characters. -/
def checkLength (limit : Nat) (text : String) : Option Breach :=
  if limit < text.toList.length then some (.tooLong limit) else none

/-- A state is an object. -/
def checkState (state : Json) : Option Breach :=
  if state.isObject then none else some .stateNoObject

/-! ## Findings -/

/-- Of the fields that were looked at, those in breach. -/
def findings (looks : List (String × Option Breach)) : List (String × Breach) :=
  looks.filterMap fun (field, breach) => breach.map (field, ·)

/-- Puts a breach behind those of the fields with lesser names. -/
def insertByField (b : String × Breach) : List (String × Breach) → List (String × Breach)
  | [] => [b]
  | c :: cs => if c.1 < b.1 then c :: insertByField b cs else b :: c :: cs

/-- Breaches by ascending field name, in whatever order they were found. -/
def byField (found : List (String × Breach)) : List (String × Breach) :=
  found.foldr insertByField []

/-- The fault of a request with something wrong in it. -/
def verdict (details : List Detail) : Except Fault Unit :=
  if details = [] then .ok ()
  else .error (.validation s!"Validation failed with {details.length} errors" details)

end Rules

/-- What is found in a draft. Its limits stand here a second time. -/
def Draft.findings (d : Draft) : List (String × Breach) :=
  Rules.findings [
    ("name", Rules.checkName d.name),
    ("description", d.description.bind (Rules.checkLength 2000)),
    ("icon", d.icon.bind (Rules.checkLength 100)),
    ("color", d.color.bind (Rules.checkLength 50)),
    ("state", d.state.bind Rules.checkState)]

def Draft.breaches (d : Draft) : List (String × Breach) := Rules.byField d.findings

/-- Refuses a draft with a field that breaks its rule. -/
def Draft.check (d : Draft) : Except Fault Unit :=
  Rules.verdict (d.breaches.map fun (field, breach) => breach.briefDetail field)

/-- What is found in a revision. A field that is kept or cleared is not looked at. -/
def Revision.findings (r : Revision) : List (String × Breach) :=
  Rules.findings [
    ("name", r.name.bind Rules.checkName),
    ("description", r.description.written?.bind (Rules.checkLength Rules.descriptionLimit)),
    ("icon", r.icon.written?.bind (Rules.checkLength Rules.iconLimit)),
    ("color", r.color.written?.bind (Rules.checkLength Rules.colorLimit)),
    ("state", r.state.bind Rules.checkState)]

def Revision.breaches (r : Revision) : List (String × Breach) := Rules.byField r.findings

/-- Refuses a revision with a field that breaks its rule. -/
def Revision.check (r : Revision) : Except Fault Unit :=
  Rules.verdict (r.breaches.map fun (field, breach) => breach.detail field)

end Workspaces
