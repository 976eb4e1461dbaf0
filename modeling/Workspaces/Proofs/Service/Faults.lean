-- Dialogues that give up: they make the same calls whatever the replies are, until one fails. Of the
-- requests of the service each is one, with at most two calls.
import Workspaces.Proofs.Service.Results

namespace Workspaces

/-! ## Dialogues that give up -/

namespace StoreCall

/-- A call that only looks comes to no fault of its own. -/
theorem run_of_looks {c : StoreCall} (h : c.Looks) (s : Store) :
    ∃ reply, c.run s = (.ok reply, s) := by
  cases c with
  | find | list | count | ping => exact ⟨_, rfl⟩
  | insert | update | delete => exact h.elim

theorem runUnder_of_calm {outage : Outage} {c : StoreCall} (h : outage c.kind = none) (s : Store) :
    c.runUnder outage s = c.run s := by
  unfold runUnder
  rw [h]

theorem runUnder_of_fault {outage : Outage} {c : StoreCall} {fault : Fault}
    (h : outage c.kind = some fault) (s : Store) : c.runUnder outage s = (.error fault, s) := by
  unfold runUnder
  rw [h]

end StoreCall

namespace Dialogue

variable {α β : Type}

/-- The dialogue makes these calls, one after another, as long as they are carried out, and at the
first fault it ends with what `tell` makes of that. All calls but the last only look. -/
inductive Makes (tell : Fault → α) : List StoreCall → Dialogue α → Prop
  | answer (a : α) : Makes tell [] (.answer a)
  | call (c : StoreCall) {calls : List StoreCall} {next : Except Fault c.Reply → Dialogue α}
      (looks : calls ≠ [] → c.Looks) (stops : ∀ fault, next (.error fault) = .answer (tell fault))
      (goes : ∀ reply, Makes tell calls (next (.ok reply))) : Makes tell (c :: calls) (.call c next)

theorem calls_call (outage : Outage) (s : Store) (c : StoreCall)
    (next : Except Fault c.Reply → Dialogue α) :
    (call c next).calls outage s =
      c :: (next (c.runUnder outage s).1).calls outage (c.runUnder outage s).2 := rfl

namespace Makes

variable {tell : Fault → α} {calls : List StoreCall} {d : Dialogue α}

theorem map (h : Makes tell calls d) (f : α → β) {tell' : Fault → β}
    (htell : ∀ fault, f (tell fault) = tell' fault) : Makes tell' calls (d.map f) := by
  induction h with
  | answer a => exact .answer (f a)
  | call c looks stops _ ih =>
    refine .call c looks (fun fault => ?_) ih
    rw [stops, ← htell]
    rfl

/-- Without an outage all of the calls are made. -/
theorem calls_eq (h : Makes tell calls d) (s : Store) : d.calls Outage.none s = calls := by
  induction h generalizing s with
  | answer a => rfl
  | @call c calls next looks stops _ ih =>
    rw [calls_call, StoreCall.runUnder_none]
    congr 1
    cases hreply : (c.run s).1 with
    | ok reply => exact ih reply _
    | error fault =>
      -- Only the last call can come to a fault of its own.
      rw [stops]
      by_contra hmore
      obtain ⟨reply, hrun⟩ := StoreCall.run_of_looks (looks fun hnone => hmore hnone.symm) s
      rw [hrun] at hreply
      cases hreply

/-- If none of its calls fails, it does not matter which others would. -/
theorem run_of_calm (h : Makes tell calls d) {outage : Outage}
    (hcalm : ∀ c ∈ calls, outage c.kind = none) (s : Store) :
    d.calls outage s = d.calls Outage.none s ∧ d.run outage s = d.run Outage.none s := by
  induction h generalizing s with
  | answer a => exact ⟨rfl, rfl⟩
  | call c looks stops _ ih =>
    obtain ⟨hc, hcalls⟩ := List.forall_mem_cons.1 hcalm
    rw [calls_call, calls_call, run_call, run_call, StoreCall.runUnder_of_calm hc,
      StoreCall.runUnder_none]
    cases (c.run s).1 with
    | ok reply =>
      obtain ⟨hmade, hrun⟩ := ih reply hcalls (c.run s).2
      exact ⟨congrArg (List.cons c) hmade, hrun⟩
    | error fault =>
      rw [stops]
      exact ⟨rfl, rfl⟩

/-- The first call that fails is the last that is made, its fault is told, and nothing was
written. -/
theorem run_of_fault {before after : List StoreCall} {c : StoreCall}
    (h : Makes tell (before ++ c :: after) d) {outage : Outage} {fault : Fault}
    (hcalm : ∀ b ∈ before, outage b.kind = none) (hfault : outage c.kind = some fault)
    (s : Store) : d.calls outage s = before ++ [c] ∧ d.run outage s = (tell fault, s) := by
  induction before generalizing d with
  | nil =>
    cases h with
    | call _ looks stops goes =>
      rw [calls_call, run_call, StoreCall.runUnder_of_fault hfault, stops]
      exact ⟨rfl, rfl⟩
  | cons b before ih =>
    obtain ⟨hb, hbefore⟩ := List.forall_mem_cons.1 hcalm
    cases h with
    | call _ looks stops goes =>
      obtain ⟨reply, hrun⟩ := StoreCall.run_of_looks (looks (by simp)) s
      obtain ⟨hmade, hrest⟩ := ih (goes reply) hbefore
      rw [calls_call, run_call, StoreCall.runUnder_of_calm hb, hrun]
      exact ⟨congrArg (List.cons b) hmade, hrest⟩

end Makes

end Dialogue

/-! ## The service -/

namespace Service

open Dialogue (Makes)

theorem create_makes (o : Occasion) {d : Draft} (hcheck : d.check = .ok ()) :
    Makes .error [.insert (d.workspace o)] (create o d) := by
  unfold create
  rw [hcheck]
  exact .call _ (fun h => absurd rfl h) (fun _ => rfl) fun _ => .answer _

theorem get_makes (id : Uuid) : Makes .error [.find id] (get id) :=
  .call _ (fun h => absurd rfl h) (fun _ => rfl) fun _ => .answer _

/-- A revision that changes nothing looks its workspace up. -/
theorem update_makes_find (now : Instant) (id : Uuid) {r : Revision} (hcheck : r.check = .ok ())
    (hempty : r.isEmpty = true) : Makes .error [.find id] (update now id r) := by
  unfold update
  rw [hcheck]
  simp only [if_pos hempty]
  exact get_makes id

theorem update_makes (now : Instant) (id : Uuid) {r : Revision} (hcheck : r.check = .ok ())
    (hsome : ¬ r.isEmpty = true) :
    Makes .error [.update id (r.changes now)] (update now id r) := by
  unfold update
  rw [hcheck]
  simp only [if_neg hsome]
  exact .call _ (fun h => absurd rfl h) (fun _ => rfl) fun _ => .answer _

theorem delete_makes (id : Uuid) : Makes .error [.delete id] (delete id) := by
  refine .call _ (fun h => absurd rfl h) (fun _ => rfl) fun deleted => ?_
  cases deleted <;> exact .answer _

theorem list_makes {skip limit : Option Int} {w : Window}
    (hwindow : Window.ofRequest skip limit = .ok w) :
    Makes .error [.list w.skip w.limit, .count] (list skip limit) := by
  unfold list
  rw [hwindow]
  refine .call _ (fun _ => trivial) (fun _ => rfl) fun items => ?_
  exact .call _ (fun h => absurd rfl h) (fun _ => rfl) fun _ => .answer _

end Service

end Workspaces
