-- The workspaces kept in memory: at most one under each id.
import Workspaces.Fault
import Workspaces.Workspace.Changes

namespace Workspaces

structure Store where
  /-- The workspaces with the ids they are kept under, in no order that matters. -/
  entries : List (Uuid × Workspace)
  ids_nodup : (entries.map (·.1)).Nodup
  deriving DecidableEq

namespace Store

def empty : Store := ⟨[], .nil⟩

instance : Inhabited Store := ⟨empty⟩

/-! ## Views -/

/-- All workspaces. -/
def workspaces (s : Store) : List Workspace := s.entries.map (·.2)

/-- The workspace kept under an id. -/
def find? (s : Store) (id : Uuid) : Option Workspace :=
  (s.entries.find? (·.1 = id)).map (·.2)

def contains (s : Store) (id : Uuid) : Bool := s.entries.any (·.1 = id)

def count (s : Store) : Nat := s.entries.length

/-- Whether a workspace has the name. One whose id is `except` does not count. -/
def nameTaken (s : Store) (name : String) (except : Option Uuid) : Bool :=
  s.workspaces.any fun w => w.name = name && some w.id ≠ except

/-! ## Listing -/

/-- Whether `a` is listed before `b`: the newer first, and of two as old as each other the one
with the lower id. -/
def listedBefore (a b : Workspace) : Bool :=
  match compare b.createdAt a.createdAt with
  | .lt => true
  | .gt => false
  | .eq => a.id ≤ b.id

/-- Puts a workspace in front of the first that is not listed before it. -/
def insertListed (w : Workspace) : List Workspace → List Workspace
  | [] => [w]
  | v :: vs => if listedBefore w v then w :: v :: vs else v :: insertListed w vs

/-- All workspaces in the order of the listing. -/
def listing (s : Store) : List Workspace := s.workspaces.foldr insertListed []

/-- At most `limit` workspaces of the listing after the first `offset`; a negative number counts
as zero. -/
def list (s : Store) (offset limit : Int) : List Workspace :=
  (s.listing.drop offset.toNat).take limit.toNat

/-! ## Writing -/

/-- Names are unique among workspaces. -/
def nameConflict : Fault :=
  .conflict "Workspace with this name already exists" (some "name") (some "WORKSPACE_003")

/-- The entries without the one under an id. -/
def erase (s : Store) (id : Uuid) : Store where
  entries := s.entries.filter (·.1 ≠ id)
  ids_nodup := s.ids_nodup.sublist (List.filter_sublist.map _)

theorem not_mem_erase (s : Store) (id : Uuid) : id ∉ (s.erase id).entries.map (·.1) := by
  simp [erase]

/-- The entries with the workspace kept under its id, in place of what was there. -/
def put (s : Store) (w : Workspace) : Store where
  entries := (w.id, w) :: (s.erase w.id).entries
  ids_nodup := List.nodup_cons.2 ⟨s.not_mem_erase w.id, (s.erase w.id).ids_nodup⟩

/-- The entries with one of them changed in place. -/
def modify (s : Store) (id : Uuid) (f : Workspace → Workspace) : Store where
  entries := s.entries.map fun e => if e.1 = id then (e.1, f e.2) else e
  ids_nodup := by
    have h : ∀ e : Uuid × Workspace, (if e.1 = id then (e.1, f e.2) else e).1 = e.1 := by
      intro e
      split <;> rfl
    simpa [List.map_map, Function.comp_def, h] using s.ids_nodup

/-- Keeps a workspace. A name that any workspace has, even one with the same id, is a conflict. -/
def insert (s : Store) (w : Workspace) : Except Fault (Workspace × Store) :=
  if s.nameTaken w.name none then .error nameConflict else .ok (w, s.put w)

/-- Changes a workspace and gives it as it then is; gives none if there is none under the id,
whatever the changes are. A new name that another workspace has is a conflict. -/
def update (s : Store) (id : Uuid) (changes : Changes) :
    Except Fault (Option Workspace × Store) :=
  match s.find? id with
  | none => .ok (none, s)
  | some w =>
    if changes.name.any fun name => s.nameTaken name (some id) then .error nameConflict
    else .ok (some (changes.apply w), s.modify id changes.apply)

/-- Removes a workspace, and tells whether there was one. -/
def delete (s : Store) (id : Uuid) : Bool × Store := (s.contains id, s.erase id)

end Store

end Workspaces
