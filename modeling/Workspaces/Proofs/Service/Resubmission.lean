-- What was stored can be sent again: a revision by a workspace's own values moves only the time of
-- its last change, and a draft with them is refused for its name.
import Workspaces.Proofs.Service.Reach

namespace Workspaces

/-! ## A workspace's own values -/

namespace Workspace

/-- The draft with all values of the workspace. -/
def draft (w : Workspace) : Draft := ⟨w.name, w.description, w.icon, w.color, some w.state⟩

/-- The revision that gives a workspace all of its own values. One that is missing is given as
missing, and so is not merely kept. -/
def revision (w : Workspace) : Revision :=
  ⟨some w.name, .replace w.description, .replace w.icon, .replace w.color, some w.state⟩

end Workspace

namespace Edit

variable {α : Type} (x : Option α)

theorem apply_replace (old : Option α) : (replace x).apply old = x := by
  cases x <;> rfl

theorem written?_replace : (replace x).written? = x := by
  cases x <;> rfl

end Edit

namespace Workspace

variable {w : Workspace}

theorem given_revision (w : Workspace) : w.revision.given = w.given := by
  simp only [revision, Revision.given, Edit.written?_replace, given]

/-- Its own values make of a workspace what it is. -/
theorem apply_revision (h : w.Settled) (now : Instant) :
    (w.revision.changes now).apply w = { w with updatedAt := now } := by
  simp only [Changes.apply, Revision.changes, revision, Edit.apply_replace, Option.map_some,
    Option.getD_some, h.trimmed]

theorem check_draft (h : w.Settled) : w.draft.check = .ok () :=
  w.draft.check_eq_ok_iff.2 h.sound

theorem check_revision (h : w.Settled) : w.revision.check = .ok () := by
  rw [Revision.check_eq_ok_iff, given_revision]
  exact h.sound

end Workspace

/-! ## Resubmission -/

namespace Service

variable {s : Store} {w : Workspace}

/-- A draft with the values of a workspace that is there is refused for its name. -/
theorem run_create_again (hfind : s.find? w.id = some w) (h : w.Settled) (o : Occasion) :
    (create o w.draft).run Outage.none s = (.error Store.nameConflict, s) := by
  rcases run_create_cases s o w.draft (Workspace.check_draft h) with ⟨_, hrun⟩ | ⟨hfree, _⟩
  · exact hrun
  · exact absurd ⟨w.id, w, hfind, h.trimmed.symm⟩ hfree

/-- No other workspace stands in the way of a revision by the own values of one that is there. -/
theorem run_update_again (hs : s.Orderly) (hfind : s.find? w.id = some w) (h : w.Settled)
    (now : Instant) : (update now w.id w.revision).run Outage.none s =
      (.ok { w with updatedAt := now }, s.modify w.id (w.revision.changes now).apply) := by
  have hdone : ∃ w' s', (update now w.id w.revision).run Outage.none s = (.ok w', s') := by
    rcases run_update_cases s hs now w.id w.revision (Workspace.check_revision h) with
      ⟨habsent, _⟩ | ⟨_, _, ⟨⟨t, ht, j, v, hv, hname, hj⟩, _⟩ | ⟨_, hdone⟩⟩
    · rw [hfind] at habsent
      cases habsent
    · obtain rfl := Option.some.inj ht
      rw [h.trimmed] at hname
      exact absurd (hs.names j w.id v w hv hfind hname) hj
    · exact hdone
  obtain ⟨w', s', hdone⟩ := hdone
  rcases update_result Outage.none s now w.id w.revision with
    ⟨fault, hrun⟩ | ⟨v, hv, _, ⟨hempty, _⟩ | ⟨_, hrun⟩⟩
  · rw [hrun] at hdone
    cases hdone
  · cases hempty
  · rw [hfind] at hv
    obtain rfl := Option.some.inj hv
    rw [hrun, Workspace.apply_revision h]

/-- In every store that the service reaches, a revision of a workspace that gives it all of its own
values succeeds, moves only the time of its last change, and changes nothing else; and a draft with
the same values is refused for its name, and changes nothing at all. -/
theorem what_is_stored_can_be_sent_again (s : Store) (hs : Reached s) (w : Workspace)
    (hw : w ∈ s.workspaces) (now : Instant) (o : Occasion) :
    (∃ s', (update now w.id w.revision).run Outage.none s =
        (.ok { w with updatedAt := now }, s') ∧
      s'.find? w.id = some { w with updatedAt := now } ∧ s.SameBut w.id s') ∧
    (create o w.draft).run Outage.none s = (.error Store.nameConflict, s) := by
  have hfind : s.find? w.id = some w := by
    obtain ⟨e, he, rfl⟩ := List.mem_map.1 hw
    have hfind := (s.find?_eq_some_iff e.2 e.1).2 he
    rwa [hs.orderly.keyed e.1 e.2 hfind]
  have hsettled := hs.allSettled w.id w hfind
  refine ⟨⟨_, run_update_again hs.orderly hfind hsettled now, ?_, s.sameBut_modify w.id _⟩,
    run_create_again hfind hsettled o⟩
  rw [Store.find?_modify_of_found w.id w.id w _ hfind, if_pos rfl,
    Workspace.apply_revision hsettled]

/-- The workspace of the sample that was revised. -/
def Sample.revised : Workspace :=
  ⟨⟨2⟩, "three", none, none, none, .object [], time 1, time 2⟩

theorem a_revised_workspace_can_be_sent_again :
    Reached Sample.kept ∧ Sample.revised ∈ Sample.kept.workspaces ∧
    (∃ s', (update (Sample.time 9) ⟨2⟩ Sample.revised.revision).run Outage.none Sample.kept =
        (.ok { Sample.revised with updatedAt := Sample.time 9 }, s') ∧
      s'.find? ⟨2⟩ = some { Sample.revised with updatedAt := Sample.time 9 } ∧
      Sample.kept.SameBut ⟨2⟩ s') ∧
    (create ⟨Sample.time 9, ⟨3⟩⟩ Sample.revised.draft).run Outage.none Sample.kept =
      (.error Store.nameConflict, Sample.kept) := by
  have hmem : Sample.revised ∈ Sample.kept.workspaces := by decide +kernel
  exact ⟨Sample.reached_kept, hmem, what_is_stored_can_be_sent_again Sample.kept
    Sample.reached_kept Sample.revised hmem (Sample.time 9) ⟨Sample.time 9, ⟨3⟩⟩⟩

end Service

end Workspaces
