-- What each call of a store comes to, and what a dialogue makes of its calls: a call fails and
-- changes nothing, or it is carried out.
import Workspaces.Proofs.Store.Lookup
import Workspaces.Store.Call

namespace Workspaces

/-! ## Calls -/

namespace StoreCall

variable (outage : Outage) (s : Store) (w : Workspace) (id : Uuid) (changes : Changes)

theorem run_insert_taken (h : s.nameTaken w.name none = true) :
    (insert w).run s = (.error Store.nameConflict, s) := by
  simp only [run, Store.insert, h, if_true]

theorem run_insert_free (h : s.nameTaken w.name none = false) :
    (insert w).run s = (.ok w, s.put w) := by
  simp only [run, Store.insert, h, Bool.false_eq_true, if_false]

@[simp] theorem run_find : (find id).run s = (.ok (s.find? id), s) := rfl

theorem run_update_absent (h : s.find? id = none) :
    (update id changes).run s = (.ok none, s) := by
  simp only [run, Store.update, h]

/-- Whether a change of name takes the name of a workspace other than the one changed. -/
def clashes : Bool := changes.name.any fun name => s.nameTaken name (some id)

theorem run_update_taken (h : s.find? id = some w) (hname : clashes s id changes = true) :
    (update id changes).run s = (.error Store.nameConflict, s) := by
  unfold clashes at hname
  simp only [run, Store.update, h, hname, if_true]

theorem run_update_free (h : s.find? id = some w) (hname : clashes s id changes = false) :
    (update id changes).run s = (.ok (some (changes.apply w)), s.modify id changes.apply) := by
  unfold clashes at hname
  simp only [run, Store.update, h, hname, Bool.false_eq_true, if_false]

theorem run_delete : (delete id).run s = (.ok (s.find? id).isSome, s.erase id) := by
  simp only [run, Store.delete, Store.contains_eq_isSome]

theorem runUnder_none (c : StoreCall) : c.runUnder Outage.none s = c.run s := rfl

/-- A call fails and changes nothing, or is carried out. -/
theorem runUnder_cases (c : StoreCall) :
    (∃ fault, c.runUnder outage s = (.error fault, s)) ∨ c.runUnder outage s = c.run s := by
  unfold runUnder
  split
  · exact .inl ⟨_, rfl⟩
  · exact .inr rfl

/-- The calls that only look. -/
def Looks : StoreCall → Prop
  | find _ | list .. | count | ping => True
  | insert _ | update .. | delete _ => False

/-- A call that only looks leaves the store as it was. -/
theorem runUnder_of_looks {c : StoreCall} (h : c.Looks) : (c.runUnder outage s).2 = s := by
  rcases runUnder_cases outage s c with ⟨fault, hrun⟩ | hrun
  · rw [hrun]
  · rw [hrun]
    cases c with
    | find | list | count | ping => rfl
    | insert | update | delete => exact h.elim

end StoreCall

/-! ## Dialogues -/

namespace Dialogue

variable {α β : Type} (outage : Outage) (s : Store)

theorem run_call (c : StoreCall) (next : Except Fault c.Reply → Dialogue α) :
    (call c next).run outage s =
      (next (c.runUnder outage s).1).run outage (c.runUnder outage s).2 := rfl

/-- To hand the answer of a dialogue on is not to call the store. -/
theorem run_map (f : α → β) (d : Dialogue α) :
    (d.map f).run outage s = (f (d.run outage s).1, (d.run outage s).2) := by
  induction d generalizing s with
  | answer a => rfl
  | call c next ih => exact ih _ _

theorem map_map {γ : Type} (f : α → β) (g : β → γ) (d : Dialogue α) :
    (d.map f).map g = d.map (g ∘ f) := by
  induction d with
  | answer a => rfl
  | call c next ih => exact congrArg (call c) (funext ih)

end Dialogue

end Workspaces
