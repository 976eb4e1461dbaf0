-- What comes of the requests of the service, whichever calls of the store fail: a fault, which
-- leaves the store as it was, or the one write that was asked for.
import Workspaces.Proofs.Store.Uniqueness
import Workspaces.Service

namespace Workspaces.Service

variable (outage : Outage) (s : Store)

/-! ## Creating -/

theorem create_result (o : Occasion) (d : Draft) :
    (∃ fault, (create o d).run outage s = (.error fault, s)) ∨
      (d.check = .ok () ∧ s.nameTaken (d.workspace o).name none = false ∧
        (create o d).run outage s = (.ok (d.workspace o), s.put (d.workspace o))) := by
  unfold create
  split
  · exact .inl ⟨_, rfl⟩
  · rename_i hcheck
    rw [Dialogue.run_call]
    rcases StoreCall.runUnder_cases outage s (.insert (d.workspace o)) with ⟨fault, hrun⟩ | hrun
    · rw [hrun]
      exact .inl ⟨fault, rfl⟩
    · rw [hrun]
      by_cases hname : s.nameTaken (d.workspace o).name none = true
      · rw [StoreCall.run_insert_taken s _ hname]
        exact .inl ⟨Store.nameConflict, rfl⟩
      · have hfree : s.nameTaken (d.workspace o).name none = false := by simpa using hname
        rw [StoreCall.run_insert_free s _ hfree]
        exact .inr ⟨hcheck, hfree, rfl⟩

/-- A draft that does not pass its check is not looked at any further. -/
theorem run_create_refused (o : Occasion) (d : Draft) {fault : Fault}
    (hcheck : d.check = .error fault) : (create o d).run outage s = (.error fault, s) := by
  unfold create
  rw [hcheck]
  rfl

/-- Without an outage, a draft that keeps the rules is refused if its name is there once it is
trimmed. -/
theorem run_create_cases (o : Occasion) (d : Draft) (hcheck : d.check = .ok ()) :
    ((∃ j v, s.find? j = some v ∧ v.name = Text.trim d.name) ∧
      (create o d).run Outage.none s = (.error Store.nameConflict, s)) ∨
    ((¬ ∃ j v, s.find? j = some v ∧ v.name = Text.trim d.name) ∧
      (create o d).run Outage.none s = (.ok (d.workspace o), s.put (d.workspace o))) := by
  have hcreate : (create o d).run Outage.none s = (StoreCall.insert (d.workspace o)).run s := by
    unfold create
    rw [hcheck]
    rfl
  rw [hcreate]
  rcases StoreCall.run_insert_cases s (d.workspace o) with htaken | ⟨hfree, hrun⟩
  · exact .inl htaken
  · exact .inr ⟨fun ⟨j, v, hv, hname⟩ => hfree j v hv hname, hrun⟩

/-! ## Looking up -/

theorem get_result (id : Uuid) :
    (∃ fault, (get id).run outage s = (.error fault, s)) ∨
      ∃ w, s.find? id = some w ∧ (get id).run outage s = (.ok w, s) := by
  unfold get
  rw [Dialogue.run_call]
  rcases StoreCall.runUnder_cases outage s (.find id) with ⟨fault, hrun⟩ | hrun
  · rw [hrun]
    exact .inl ⟨fault, rfl⟩
  · rw [hrun, StoreCall.run_find]
    cases hfind : s.find? id with
    | none => exact .inl ⟨.noWorkspace, rfl⟩
    | some w => exact .inr ⟨w, rfl, rfl⟩

/-- Without an outage, what is looked up is found exactly if it is there. -/
theorem run_get (id : Uuid) : (get id).run Outage.none s = (found (.ok (s.find? id)), s) := rfl

/-! ## Revising -/

/-- What a revision of a workspace comes to: the workspace as it is if the revision is empty, the
workspace with all of the changes made otherwise. -/
theorem update_result (now : Instant) (id : Uuid) (r : Revision) :
    (∃ fault, (update now id r).run outage s = (.error fault, s)) ∨
      ∃ w, s.find? id = some w ∧ r.check = .ok () ∧
        ((r.isEmpty = true ∧ (update now id r).run outage s = (.ok w, s)) ∨
          (r.isEmpty = false ∧ (update now id r).run outage s =
            (.ok ((r.changes now).apply w), s.modify id (r.changes now).apply))) := by
  unfold update
  split
  · exact .inl ⟨_, rfl⟩
  · rename_i hcheck
    by_cases hempty : r.isEmpty = true
    · rw [if_pos hempty]
      rcases get_result outage s id with hfault | ⟨w, hfind, hrun⟩
      · exact .inl hfault
      · exact .inr ⟨w, hfind, hcheck, .inl ⟨hempty, hrun⟩⟩
    · have hsome : r.isEmpty = false := by simpa using hempty
      rw [if_neg hempty, Dialogue.run_call]
      rcases StoreCall.runUnder_cases outage s (.update id (r.changes now)) with
        ⟨fault, hrun⟩ | hrun
      · rw [hrun]
        exact .inl ⟨fault, rfl⟩
      · rw [hrun]
        cases hfind : s.find? id with
        | none =>
          rw [StoreCall.run_update_absent s id _ hfind]
          exact .inl ⟨.noWorkspace, rfl⟩
        | some w =>
          by_cases hname : StoreCall.clashes s id (r.changes now) = true
          · rw [StoreCall.run_update_taken s w id _ hfind hname]
            exact .inl ⟨Store.nameConflict, rfl⟩
          · rw [StoreCall.run_update_free s w id _ hfind (by simpa using hname)]
            exact .inr ⟨w, rfl, hcheck, .inr ⟨hsome, rfl⟩⟩

/-- A revision that does not pass its check is not looked at any further. -/
theorem run_update_refused (now : Instant) (id : Uuid) (r : Revision) {fault : Fault}
    (hcheck : r.check = .error fault) : (update now id r).run outage s = (.error fault, s) := by
  unfold update
  rw [hcheck]
  rfl

/-- A revision that keeps the rules finds no workspace where there is none. -/
theorem run_update_absent (now : Instant) (id : Uuid) (r : Revision) (hcheck : r.check = .ok ())
    (habsent : s.find? id = none) :
    (update now id r).run Outage.none s = (.error .noWorkspace, s) := by
  unfold update
  rw [hcheck]
  simp only
  split
  · rw [run_get, habsent]
    rfl
  · rw [Dialogue.run_call, StoreCall.runUnder_none, StoreCall.run_update_absent s id _ habsent]
    rfl

/-- Without an outage, a revision that keeps the rules comes to nothing if its workspace is not
there, and is refused if another one has its name once it is trimmed. -/
theorem run_update_cases (hs : s.Orderly) (now : Instant) (id : Uuid) (r : Revision)
    (hcheck : r.check = .ok ()) :
    (s.find? id = none ∧ (update now id r).run Outage.none s = (.error .noWorkspace, s)) ∨
    ∃ w, s.find? id = some w ∧
      (((∃ t ∈ r.name, ∃ j v, s.find? j = some v ∧ v.name = Text.trim t ∧ j ≠ id) ∧
        (update now id r).run Outage.none s = (.error Store.nameConflict, s)) ∨
      ((¬ ∃ t ∈ r.name, ∃ j v, s.find? j = some v ∧ v.name = Text.trim t ∧ j ≠ id) ∧
        ∃ w' s', (update now id r).run Outage.none s = (.ok w', s'))) := by
  cases hfind : s.find? id with
  | none => exact .inl ⟨rfl, run_update_absent s now id r hcheck hfind⟩
  | some w =>
    refine .inr ⟨w, rfl, ?_⟩
    by_cases hempty : r.isEmpty = true
    · have hname : r.name = none := by
        unfold Revision.isEmpty at hempty
        simp only [Bool.and_eq_true, decide_eq_true_eq] at hempty
        exact hempty.1.1.1.1
      have hupdate : (update now id r).run Outage.none s = (.ok w, s) := by
        unfold update
        rw [hcheck]
        simp only [if_pos hempty]
        rw [run_get, hfind]
        rfl
      exact .inr ⟨by simp [hname], w, s, hupdate⟩
    · have hupdate : (update now id r).run Outage.none s =
          (found ((StoreCall.update id (r.changes now)).run s).1,
            ((StoreCall.update id (r.changes now)).run s).2) := by
        unfold update
        rw [hcheck]
        simp only [if_neg hempty]
        rfl
      have hchanged : ∀ t, (∃ t' ∈ r.name, t = Text.trim t') ↔ t ∈ (r.changes now).name := by
        intro t
        simp [Revision.changes, eq_comm]
      rw [hupdate]
      rcases StoreCall.run_update_cases hs id (r.changes now) with
        ⟨habsent, _⟩ | ⟨v, hv, ⟨⟨t, ht, j, u, hu, hname, hj⟩, hrun⟩ | ⟨hfree, hrun⟩⟩
      · rw [hfind] at habsent
        cases habsent
      · obtain ⟨t', ht', rfl⟩ := (hchanged t).2 ht
        rw [hrun]
        exact .inl ⟨⟨t', ht', j, u, hu, hname, hj⟩, rfl⟩
      · rw [hrun]
        refine .inr ⟨?_, _, _, rfl⟩
        rintro ⟨t, ht, j, u, hu, hname, hj⟩
        exact hfree (Text.trim t) ((hchanged _).1 ⟨t, ht, rfl⟩) j u hu hj hname

/-! ## Deleting -/

theorem delete_result (id : Uuid) :
    (∃ fault, (delete id).run outage s = (.error fault, s)) ∨
      ∃ w, s.find? id = some w ∧ (delete id).run outage s = (.ok (), s.erase id) := by
  unfold delete
  rw [Dialogue.run_call]
  rcases StoreCall.runUnder_cases outage s (.delete id) with ⟨fault, hrun⟩ | hrun
  · rw [hrun]
    exact .inl ⟨fault, rfl⟩
  · rw [hrun, StoreCall.run_delete]
    cases hfind : s.find? id with
    | none =>
      rw [s.erase_of_absent id hfind]
      exact .inl ⟨.noWorkspace, rfl⟩
    | some w => exact .inr ⟨w, rfl, rfl⟩

/-- Without an outage, what is deleted is what is there. -/
theorem run_delete (id : Uuid) : (delete id).run Outage.none s =
    (if (s.find? id).isSome then .ok () else .error .noWorkspace, s.erase id) := by
  unfold delete
  rw [Dialogue.run_call, StoreCall.runUnder_none, StoreCall.run_delete]
  cases (s.find? id).isSome <;> rfl

/-! ## Listing -/

/-- To list changes nothing. -/
theorem list_keeps (skip limit : Option Int) : ((list skip limit).run outage s).2 = s := by
  unfold list
  split
  · rfl
  · rename_i window _
    have hlist := StoreCall.runUnder_of_looks outage s (c := .list window.skip window.limit) trivial
    have hcount := StoreCall.runUnder_of_looks outage s (c := .count) trivial
    rw [Dialogue.run_call, hlist]
    split
    · rfl
    · rw [Dialogue.run_call, hcount]
      split <;> rfl

/-- Without an outage, a page is what the listing holds in the window. -/
theorem run_list (skip limit : Option Int) (w : Window) (h : Window.ofRequest skip limit = .ok w) :
    (list skip limit).run Outage.none s = (.ok ⟨s.list w.skip w.limit, w, s.count⟩, s) := by
  unfold list
  rw [h]
  rfl

end Workspaces.Service
