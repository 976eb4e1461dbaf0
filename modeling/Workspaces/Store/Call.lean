-- Calls of a store, and dialogues with one: a computation that makes calls, one after another.
import Workspaces.Store.Basic

namespace Workspaces

/-! ## Calls -/

/-- What a store can be asked. -/
inductive StoreCall where
  | insert (w : Workspace)
  | find (id : Uuid)
  | list (offset limit : Int)
  | count
  | update (id : Uuid) (changes : Changes)
  | delete (id : Uuid)
  | ping
  deriving DecidableEq, Repr

namespace StoreCall

/-- The kinds of call. -/
inductive Kind where
  | insert
  | find
  | list
  | count
  | update
  | delete
  | ping
  deriving DecidableEq, Repr

def kind : StoreCall → Kind
  | insert _ => .insert
  | find _ => .find
  | list .. => .list
  | count => .count
  | update .. => .update
  | delete _ => .delete
  | ping => .ping

/-- What a call is answered with when it does not fail. -/
@[reducible] def Reply : StoreCall → Type
  | insert _ => Workspace
  | find _ => Option Workspace
  | list .. => List Workspace
  | count => Int
  | update .. => Option Workspace
  | delete _ => Bool
  | ping => Unit

/-- Carries out a call: its answer, and the store after it. A call that fails changes nothing. -/
def run : (c : StoreCall) → Store → Except Fault c.Reply × Store
  | insert w, s =>
    match s.insert w with
    | .ok (w, s') => (.ok w, s')
    | .error fault => (.error fault, s)
  | find id, s => (.ok (s.find? id), s)
  | list offset limit, s => (.ok (s.list offset limit), s)
  | count, s => (.ok s.count, s)
  | update id changes, s =>
    match s.update id changes with
    | .ok (w, s') => (.ok w, s')
    | .error fault => (.error fault, s)
  | delete id, s => (.ok (s.delete id).1, (s.delete id).2)
  | ping, s => (.ok (), s)

end StoreCall

/-- The calls that fail without being carried out, by kind. -/
abbrev Outage := StoreCall.Kind → Option Fault

/-- A store that carries out every call. -/
def Outage.none : Outage := fun _ => .none

/-- Carries out a call unless calls of its kind fail. -/
def StoreCall.runUnder (outage : Outage) (c : StoreCall) (s : Store) :
    Except Fault c.Reply × Store :=
  match outage c.kind with
  | some fault => (.error fault, s)
  | none => c.run s

/-! ## Dialogues -/

/-- A computation that ends with an answer, or calls the store and goes on with the reply. -/
inductive Dialogue (α : Type) where
  | answer (a : α)
  | call (c : StoreCall) (next : Except Fault c.Reply → Dialogue α)

namespace Dialogue

variable {α β : Type}

/-- The dialogue with its answer handed to a function. -/
def map (f : α → β) : Dialogue α → Dialogue β
  | answer a => answer (f a)
  | call c next => call c fun r => (next r).map f

/-- The answer of a dialogue held with a store, and the store after it. -/
def run (outage : Outage) : Dialogue α → Store → α × Store
  | answer a, s => (a, s)
  | call c next, s =>
    let (reply, s) := c.runUnder outage s
    (next reply).run outage s

/-- The calls that a dialogue makes of a store, in order. -/
def calls (outage : Outage) : Dialogue α → Store → List StoreCall
  | answer _, _ => []
  | call c next, s =>
    let (reply, s) := c.runUnder outage s
    c :: (next reply).calls outage s

end Dialogue

end Workspaces
