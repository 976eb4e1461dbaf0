-- Stores that the service reaches from an empty one. Whatever comes into them was checked and
-- trimmed on its way, and would pass again as it is kept.
import Workspaces.Proofs.Service.Results
import Workspaces.Proofs.Workspace.DataModel

namespace Workspaces

namespace Service

/-! ## Reached stores -/

/-- The service can come to this store from an empty one, by any requests, at any times, and
whichever calls of the store failed meanwhile. -/
inductive Reached : Store → Prop
  | empty : Reached .empty
  | create {s : Store} (h : Reached s) (outage : Outage) (o : Occasion) (d : Draft) :
      Reached ((Service.create o d).run outage s).2
  | get {s : Store} (h : Reached s) (outage : Outage) (id : Uuid) :
      Reached ((Service.get id).run outage s).2
  | list {s : Store} (h : Reached s) (outage : Outage) (skip limit : Option Int) :
      Reached ((Service.list skip limit).run outage s).2
  | update {s : Store} (h : Reached s) (outage : Outage) (now : Instant) (id : Uuid)
      (r : Revision) : Reached ((Service.update now id r).run outage s).2
  | delete {s : Store} (h : Reached s) (outage : Outage) (id : Uuid) :
      Reached ((Service.delete id).run outage s).2

theorem orderly_run {α : Type} {s : Store} (hs : s.Orderly) (task : Task α) (outage : Outage) :
    (task.run outage s).2.Orderly := by
  obtain ⟨calls, hcalls⟩ := Dialogue.run_eq_after outage task s
  rw [hcalls]
  exact hs.after calls

theorem Reached.orderly {s : Store} (h : Reached s) : s.Orderly := by
  induction h with
  | empty => exact Store.orderly_empty
  | create _ outage o d ih => exact orderly_run ih (Service.create o d) outage
  | get _ outage id ih => exact orderly_run ih (Service.get id) outage
  | list _ outage skip limit ih => exact orderly_run ih (Service.list skip limit) outage
  | update _ outage now id r ih => exact orderly_run ih (Service.update now id r) outage
  | delete _ outage id ih => exact orderly_run ih (Service.delete id) outage

end Service

/-! ## Workspaces that would pass again -/

/-- The values of a workspace, as a request could give them. -/
def Workspace.given (w : Workspace) : Given :=
  ⟨some w.name, w.description, w.icon, w.color, some w.state⟩

/-- Trimming leaves the name as it is, and the values keep the rules. -/
structure Workspace.Settled (w : Workspace) : Prop where
  trimmed : Text.trim w.name = w.name
  sound : w.given.findings = []

/-- A name that keeps its rule keeps it once it is trimmed. -/
theorem Rules.checkName_trim {t : String} (h : checkName t = none) :
    checkName (Text.trim t) = none := by
  rw [checkName_eq_none_iff] at h ⊢
  rw [Text.trim_trim]
  exact h

/-- A draft that passes its check asks for a workspace that would pass it too. -/
theorem Draft.settled_of_check (d : Draft) (o : Occasion) (h : d.check = .ok ()) :
    (d.workspace o).Settled := by
  obtain ⟨hname, hdescription, hicon, hcolor, hstate⟩ :=
    d.given.findings_eq_nil_iff.1 (d.check_eq_ok_iff.1 h)
  refine ⟨Text.trim_trim d.name,
    (Given.findings_eq_nil_iff _).2 ⟨?_, hdescription, hicon, hcolor, ?_⟩⟩
  · rintro t ⟨⟩
    exact Rules.checkName_trim (hname _ rfl)
  · rintro v ⟨⟩
    change Rules.checkState (d.state.getD (.object [])) = none
    cases hgiven : d.state with
    | none => rfl
    | some v => exact hstate v hgiven

/-- A revision that passes its check leaves a workspace that would pass it too. -/
theorem Revision.settled_of_check (r : Revision) (now : Instant) (w : Workspace)
    (h : r.check = .ok ()) (hw : w.Settled) : ((r.changes now).apply w).Settled := by
  obtain ⟨hname, hdescription, hicon, hcolor, hstate⟩ :=
    r.given.findings_eq_nil_iff.1 (r.check_eq_ok_iff.1 h)
  obtain ⟨hname₀, hdescription₀, hicon₀, hcolor₀, hstate₀⟩ :=
    w.given.findings_eq_nil_iff.1 hw.sound
  refine ⟨?_, (Given.findings_eq_nil_iff _).2 ⟨?_, ?_, ?_, ?_, ?_⟩⟩
  · change Text.trim ((r.name.map Text.trim).getD w.name) = (r.name.map Text.trim).getD w.name
    cases r.name with
    | none => exact hw.trimmed
    | some t => exact Text.trim_trim t
  · rintro t ⟨⟩
    change Rules.checkName ((r.name.map Text.trim).getD w.name) = none
    cases hgiven : r.name with
    | none => exact hname₀ _ rfl
    | some t => exact Rules.checkName_trim (hname t hgiven)
  · exact Edit.apply_keeps _ _ _ hdescription₀ hdescription
  · exact Edit.apply_keeps _ _ _ hicon₀ hicon
  · exact Edit.apply_keeps _ _ _ hcolor₀ hcolor
  · rintro v ⟨⟩
    change Rules.checkState (r.state.getD w.state) = none
    cases hgiven : r.state with
    | none => exact hstate₀ _ rfl
    | some v => exact hstate v hgiven

namespace Service

variable {s : Store}

/-- All that is kept would pass again. -/
def AllSettled (s : Store) : Prop := ∀ id w, s.find? id = some w → w.Settled

theorem allSettled_create (h : AllSettled s) (outage : Outage) (o : Occasion) (d : Draft) :
    AllSettled ((create o d).run outage s).2 := by
  rcases create_result outage s o d with ⟨fault, hrun⟩ | ⟨hcheck, _, hrun⟩
  · rw [hrun]
    exact h
  · rw [hrun]
    intro j v hv
    rw [Store.find?_put] at hv
    split at hv
    · obtain rfl := Option.some.inj hv
      exact d.settled_of_check o hcheck
    · exact h j v hv

theorem allSettled_update (h : AllSettled s) (outage : Outage) (now : Instant) (id : Uuid)
    (r : Revision) : AllSettled ((update now id r).run outage s).2 := by
  rcases update_result outage s now id r with
    ⟨fault, hrun⟩ | ⟨w, hfind, hcheck, ⟨_, hrun⟩ | ⟨_, hrun⟩⟩
  · rw [hrun]
    exact h
  · rw [hrun]
    exact h
  · rw [hrun]
    intro j v hv
    rw [Store.find?_modify_of_found id j w _ hfind] at hv
    split at hv
    · obtain rfl := Option.some.inj hv
      exact r.settled_of_check now w hcheck (h id w hfind)
    · exact h j v hv

theorem allSettled_delete (h : AllSettled s) (outage : Outage) (id : Uuid) :
    AllSettled ((delete id).run outage s).2 := by
  rcases delete_result outage s id with ⟨fault, hrun⟩ | ⟨w, _, hrun⟩
  · rw [hrun]
    exact h
  · rw [hrun]
    intro j v hv
    rw [Store.find?_erase] at hv
    split at hv
    · cases hv
    · exact h j v hv

theorem get_keeps (outage : Outage) (s : Store) (id : Uuid) : ((get id).run outage s).2 = s := by
  rcases get_result outage s id with ⟨fault, hrun⟩ | ⟨w, _, hrun⟩ <;> rw [hrun]

theorem Reached.allSettled (h : Reached s) : AllSettled s := by
  induction h with
  | empty =>
    intro id w hw
    cases hw
  | create _ outage o d ih => exact allSettled_create ih outage o d
  | get _ outage id ih => rwa [get_keeps]
  | list _ outage skip limit ih => rwa [list_keeps]
  | update _ outage now id r ih => exact allSettled_update ih outage now id r
  | delete _ outage id ih => exact allSettled_delete ih outage id

/-! ## A sample -/

namespace Sample

def time (day : Nat) : Instant := ⟨⟨2025, 1, day⟩, 0, 0⟩

/-- Two workspaces are created at one time. -/
def newborn : Store :=
  ((create ⟨time 1, ⟨1⟩⟩ ⟨"two", none, some "icon", none, none⟩).run Outage.none
    ((create ⟨time 1, ⟨2⟩⟩ ⟨" one ", some "first", none, none, none⟩).run Outage.none
      Store.empty).2).2

/-- The first of them gives up its name and its description. -/
def kept : Store :=
  ((update (time 2) ⟨2⟩ ⟨some "\tthree ", .clear, .keep, .keep, none⟩).run Outage.none newborn).2

theorem reached_kept : Reached kept :=
  ((Reached.empty.create _ _ _).create _ _ _).update _ _ _ _

end Sample

end Service

end Workspaces
