-- What a client learns of faults that are not its own: their kind, and nothing of what they carry.
-- Two runs that differ in nothing else are followed side by side, from the calls of the store up to
-- the answer.
import Workspaces.Proofs.Http.Exchange

namespace Workspaces

/-! ## Faults that look alike -/

/-- The same fault, or two faults of the server of one kind, which may carry different things. -/
inductive Fault.Alike : Fault → Fault → Prop
  | same (fault : Fault) : Alike fault fault
  | database (cause cause' : DatabaseFault) : Alike (.database cause) (.database cause')
  | pool (reason reason' : String) : Alike (.pool reason) (.pool reason')
  | config (reason reason' : String) : Alike (.config reason) (.config reason')
  | internal (reason reason' : String) : Alike (.internal reason) (.internal reason')

/-- The same calls fail, with faults that look alike. -/
def Outage.Alike (outage outage' : Outage) : Prop :=
  ∀ kind, Option.Rel Fault.Alike (outage kind) (outage' kind)

/-- The same result, or faults that look alike. -/
inductive Result.Alike {α : Type} : Except Fault α → Except Fault α → Prop
  | ok (a : α) : Alike (.ok a) (.ok a)
  | error {fault fault' : Fault} (h : fault.Alike fault') : Alike (.error fault) (.error fault')

theorem Result.Alike.refl {α : Type} (result : Except Fault α) : Alike result result := by
  cases result with
  | ok a => exact .ok a
  | error fault => exact .error (.same fault)

/-- One call, under outages that look alike: the replies look alike, and the store is the same. -/
theorem StoreCall.runUnder_alike {outage outage' : Outage} (h : outage.Alike outage')
    (c : StoreCall) (s : Store) :
    Result.Alike (c.runUnder outage s).1 (c.runUnder outage' s).1 ∧
      (c.runUnder outage s).2 = (c.runUnder outage' s).2 := by
  have hkind := h c.kind
  unfold runUnder
  generalize outage c.kind = fault?, outage' c.kind = fault?' at hkind
  cases hkind with
  | none => exact ⟨.refl _, rfl⟩
  | some hfault => exact ⟨.error hfault, rfl⟩

/-! ## Dialogues side by side -/

/-- Two dialogues make the same calls, go on in step after replies that look alike, and end with
answers that are related. -/
inductive Dialogue.InStep {α : Type} (R : α → α → Prop) : Dialogue α → Dialogue α → Prop
  | answer {a b : α} (h : R a b) : InStep R (.answer a) (.answer b)
  | call (c : StoreCall) {next next' : Except Fault c.Reply → Dialogue α}
      (h : ∀ reply reply', Result.Alike reply reply' → InStep R (next reply) (next' reply')) :
      InStep R (.call c next) (.call c next')

namespace Dialogue.InStep

variable {α β : Type} {R : α → α → Prop} {Q : β → β → Prop} {d d' : Dialogue α}

theorem map (h : InStep R d d') {f f' : α → β} (hf : ∀ a b, R a b → Q (f a) (f' b)) :
    InStep Q (d.map f) (d'.map f') := by
  induction h with
  | answer h => exact .answer (hf _ _ h)
  | call c _ ih => exact .call c ih

/-- Dialogues in step, held with one store under outages that look alike, end with related answers
and leave the same store. -/
theorem run (h : InStep R d d') {outage outage' : Outage} (ho : outage.Alike outage') (s : Store) :
    R (d.run outage s).1 (d'.run outage' s).1 ∧ (d.run outage s).2 = (d'.run outage' s).2 := by
  -- After each call the two sides hold the same store, so one store goes through the induction.
  induction h generalizing s with
  | answer h => exact ⟨h, rfl⟩
  | call c _ ih =>
    obtain ⟨hreply, hstore⟩ := StoreCall.runUnder_alike ho c s
    rw [Dialogue.run_call, Dialogue.run_call, ← hstore]
    exact ih _ _ hreply _

end Dialogue.InStep

/-! ## The service -/

namespace Service

open Dialogue (InStep)

theorem alike_found {reply reply' : Except Fault (Option Workspace)}
    (h : Result.Alike reply reply') : Result.Alike (found reply) (found reply') := by
  cases h with
  | ok w? => exact .refl _
  | error h => exact .error h

theorem create_inStep (o : Occasion) (d : Draft) :
    InStep Result.Alike (create o d) (create o d) := by
  unfold create
  split
  · exact .answer (.refl _)
  · exact .call _ fun _ _ h => .answer h

theorem get_inStep (id : Uuid) : InStep Result.Alike (get id) (get id) :=
  .call _ fun _ _ h => .answer (alike_found h)

theorem update_inStep (now : Instant) (id : Uuid) (r : Revision) :
    InStep Result.Alike (update now id r) (update now id r) := by
  unfold update
  split
  · exact .answer (.refl _)
  · split
    · exact get_inStep id
    · exact .call _ fun _ _ h => .answer (alike_found h)

theorem delete_inStep (id : Uuid) : InStep Result.Alike (delete id) (delete id) := by
  refine .call _ fun _ _ h => ?_
  cases h with
  | ok deleted => cases deleted <;> exact .answer (.refl _)
  | error h => exact .answer (.error h)

theorem list_inStep (skip limit : Option Int) :
    InStep Result.Alike (list skip limit) (list skip limit) := by
  unfold list
  split
  · exact .answer (.refl _)
  · refine .call _ fun _ _ h => ?_
    cases h with
    | error h => exact .answer (.error h)
    | ok items =>
      -- Only with the items in hand is the total asked for.
      refine .call _ fun _ _ h => ?_
      cases h with
      | error h => exact .answer (.error h)
      | ok total => exact .answer (.ok _)

end Service

/-! ## Answers -/

/-- A client is told the same of faults that look alike. -/
theorem Fault.Alike.ofFault_eq {fault fault' : Fault} (h : fault.Alike fault') (now : Instant) :
    Http.Response.ofFault fault now = Http.Response.ofFault fault' now := by
  cases h <;> rfl

namespace Http

namespace Server

open Dialogue (InStep)

/-- A handler that ends with the same answer whichever of two replies that look alike it gets. -/
abbrev Discreet (d : Dialogue Outcome) : Prop := InStep Eq d d

variable (o : Occasion) (r : Request) (segment : Octets)

theorem respond_eq {α : Type} (now : Instant) (status : Nat) (envelope : α → Envelope)
    (result result' : Except Fault α) (h : Result.Alike result result') :
    respond now status envelope result = respond now status envelope result' := by
  cases h with
  | ok a => rfl
  | error h => exact congrArg Except.ok (h.ofFault_eq now)

theorem create_discreet : Discreet (create o r) := by
  unfold create
  split
  · exact .answer rfl
  · exact (Service.create_inStep _ _).map (respond_eq _ _ _)

theorem list_discreet (requestId : Option String) : Discreet (list o requestId r) := by
  unfold list
  split
  · exact .answer rfl
  · refine (Service.list_inStep _ _).map fun page page' h => ?_
    cases h with
    | ok page => rfl
    | error h => exact congrArg Except.ok (h.ofFault_eq _)

theorem withId_discreet {f : Uuid → Dialogue Outcome} (h : ∀ id, Discreet (f id)) :
    Discreet (withId o segment f) := by
  unfold withId
  split
  · exact .answer rfl
  · exact .answer rfl
  · exact h _

theorem get_discreet : Discreet (get o segment) :=
  withId_discreet o segment fun id => (Service.get_inStep id).map (respond_eq _ _ _)

theorem update_discreet : Discreet (update o segment r) := by
  unfold update
  split
  · exact .answer rfl
  · split
    · exact .answer rfl
    · exact withId_discreet o segment fun id =>
        (Service.update_inStep _ id _).map (respond_eq _ _ _)

theorem delete_discreet : Discreet (delete o segment) :=
  withId_discreet o segment fun id => (Service.delete_inStep id).map (respond_eq _ _ _)

/-- The health check tells that the store fails, and not how. -/
theorem health_discreet : Discreet health := by
  refine .call _ fun _ _ h => ?_
  cases h with
  | ok _ => exact .answer rfl
  | error h => exact .answer rfl

theorem getRoute_discreet (requestId : Option String) (route : Route) :
    Discreet (getRoute o requestId r route) := by
  cases route with
  | health => exact health_discreet
  | collection => exact list_discreet o r requestId
  | item segment => exact get_discreet o segment
  | document | docs | docsPage | reference => exact .answer rfl

theorem handle_discreet (requestId : Option String) (route : Route) :
    Discreet (handle o requestId r route) := by
  unfold handle
  split
  · exact getRoute_discreet o r requestId _
  · exact (getRoute_discreet o r requestId _).map fun _ _ h => congrArg _ h
  · exact create_discreet o r
  · exact update_discreet o r _
  · exact update_discreet o r _
  · exact delete_discreet o _
  · exact .answer rfl

theorem serve_discreet (c : Config) : Discreet (serve c o r) := by
  unfold serve answer
  refine InStep.map ?_ fun _ _ h => congrArg _ h
  simp only
  split
  · exact .answer rfl
  · refine InStep.map ?_ fun _ _ h => congrArg _ h
    split
    · exact handle_discreet o _ _ _
    · exact .answer rfl

end Server

/-! ## The law -/

def Exchange.under (x : Exchange) (outage : Outage) : Exchange := { x with outage }

/-- Whatever is asked and whatever the store holds, at any time and with any fresh ids: where the
same calls of the store fail with the same kinds of fault, the answers are the same, and so is the
store, whatever the faults of the server carry. -/
theorem what_a_server_fault_carries_is_not_told (c : Config) (x : Exchange) (s : Store)
    (outage outage' : Outage) (h : outage.Alike outage') :
    (x.under outage).run c s = (x.under outage').run c s := by
  obtain ⟨hanswer, hstore⟩ := (Server.serve_discreet x.occasion x.request c).run h s
  exact Prod.ext hanswer hstore

/-- An outage of the database, which takes no workspace in. -/
def Sample.databaseOutage (cause : DatabaseFault) : Outage
  | .insert => some (.database cause)
  | _ => none

theorem a_full_disk_is_told_as_a_rollback_is :
    (Sample.databaseOutage (.other "disk full")).Alike (Sample.databaseOutage .rolledBack) ∧
    (Sample.creation.under (Sample.databaseOutage (.other "disk full"))).run Sample.config
        Store.empty =
      (Sample.creation.under (Sample.databaseOutage .rolledBack)).run Sample.config Store.empty ∧
    Outcome.status? ((Sample.creation.under (Sample.databaseOutage .rolledBack)).run Sample.config
      Store.empty).1 = some 500 := by
  have halike : (Sample.databaseOutage (.other "disk full")).Alike
      (Sample.databaseOutage .rolledBack) := by
    intro kind
    cases kind with
    | insert => exact .some (.database _ _)
    | find | list | count | update | delete | ping => exact .none
  exact ⟨halike, what_a_server_fault_carries_is_not_told Sample.config Sample.creation Store.empty
    _ _ halike, by decide +kernel⟩

end Http

end Workspaces
