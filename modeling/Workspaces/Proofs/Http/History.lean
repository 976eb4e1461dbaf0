-- Histories: exchanges one after another with one store. The clock never goes back, so every
-- workspace that is kept stays within the data model.
import Workspaces.Proofs.Http.Exchange
import Workspaces.Proofs.Store.Uniqueness
import Workspaces.Proofs.Workspace.DataModel

namespace Workspaces

/-! ## Properties of all that is kept -/

/-- Every workspace is kept under its own id and has the property. -/
def Store.All (P : Workspace → Prop) (s : Store) : Prop :=
  ∀ id w, s.find? id = some w → w.id = id ∧ P w

namespace Http

variable {x : Exchange} {s s' : Store} {outcome : Outcome} {P Q : Workspace → Prop}

/-- What an exchange makes of a property of all that is kept: it has to turn into the new one for
what is left alone, for what is created and for what is revised. -/
theorem Turn.all (h : Turn x s outcome s') (hs : s.All P) (hleft : ∀ w, P w → Q w)
    (hcreated : ∀ d : Draft, d.check = .ok () → Q (d.workspace x.occasion.toOccasion))
    (hrevised : ∀ (r : Revision) w, r.check = .ok () → P w →
      Q ((r.changes x.occasion.now).apply w)) : s'.All Q := by
  intro j v hv
  cases h with
  | idle | shown =>
    obtain ⟨hid, hp⟩ := hs j v hv
    exact ⟨hid, hleft v hp⟩
  | created d method check free status told =>
    rw [Store.find?_put] at hv
    split at hv
    · rename_i hj
      obtain rfl := Option.some.inj hv
      exact ⟨hj.symm, hcreated d check⟩
    · obtain ⟨hid, hp⟩ := hs j v hv
      exact ⟨hid, hleft v hp⟩
  | revised id w r method addresses found check status told =>
    rw [Store.find?_modify] at hv
    split at hv
    · obtain ⟨u, hu, rfl⟩ := Option.map_eq_some_iff.1 hv
      obtain ⟨hid, hp⟩ := hs j u hu
      exact ⟨hid, hrevised r u check hp⟩
    · obtain ⟨hid, hp⟩ := hs j v hv
      exact ⟨hid, hleft v hp⟩
  | deleted id w method addresses found status =>
    rw [Store.find?_erase] at hv
    split at hv
    · cases hv
    · obtain ⟨hid, hp⟩ := hs j v hv
      exact ⟨hid, hleft v hp⟩

/-! ## Histories -/

/-- The store after exchanges, one after another. -/
def storeAfter (c : Config) (s : Store) : List Exchange → Store
  | [] => s
  | x :: xs => storeAfter c (x.run c s).2 xs

theorem storeAfter_append (c : Config) (s : Store) (xs ys : List Exchange) :
    storeAfter c s (xs ++ ys) = storeAfter c (storeAfter c s xs) ys := by
  induction xs generalizing s with
  | nil => rfl
  | cons x xs ih => exact ih _

/-- Exchanges leave every workspace under its own id, and no name twice. -/
theorem orderly_storeAfter (c : Config) (xs : List Exchange) (s : Store) (hs : s.Orderly) :
    (storeAfter c s xs).Orderly := by
  induction xs generalizing s with
  | nil => exact hs
  | cons x xs ih =>
    obtain ⟨calls, hcalls⟩ :=
      Dialogue.run_eq_after x.outage (Server.serve c x.occasion x.request) s
    refine ih _ ?_
    rw [Exchange.run, hcalls]
    exact hs.after calls

/-- The clock does not go back from an exchange to a later one. -/
def ClockRuns (xs : List Exchange) : Prop :=
  xs.Pairwise fun x y => x.occasion.now ≤ y.occasion.now

/-! ## The data model -/

/-- Sound, and last changed at no time that is still to come. -/
def SoundBefore (xs : List Exchange) (w : Workspace) : Prop :=
  w.Sound ∧ ∀ x ∈ xs, w.updatedAt ≤ x.occasion.now

theorem soundBefore_step (c : Config) (x : Exchange) (xs : List Exchange) (s : Store)
    (hclock : ∀ y ∈ xs, x.occasion.now ≤ y.occasion.now) (hs : s.All (SoundBefore (x :: xs))) :
    (x.run c s).2.All (SoundBefore xs) := by
  refine (Server.turn_of_run x s c).all hs (fun w hw => ?_) (fun d hd => ?_) fun r w hr hw => ?_
  · obtain ⟨hsound, hlast⟩ := hw
    exact ⟨hsound, fun y hy => hlast y (List.mem_cons_of_mem x hy)⟩
  · exact ⟨d.sound_of_check _ hd, hclock⟩
  · obtain ⟨hsound, hlast⟩ := hw
    have hnow : w.createdAt ≤ x.occasion.now :=
      Instant.le_trans hsound.created_first (hlast x List.mem_cons_self)
    exact ⟨r.sound_of_check _ w hr hsound hnow, hclock⟩

theorem soundBefore_run (c : Config) (xs : List Exchange) (s : Store) (hclock : ClockRuns xs)
    (hs : s.All (SoundBefore xs)) : (storeAfter c s xs).All Workspace.Sound := by
  induction xs generalizing s with
  | nil =>
    intro id w hw
    obtain ⟨hid, hsound, _⟩ := hs id w hw
    exact ⟨hid, hsound⟩
  | cons x xs ih =>
    obtain ⟨hx, hxs⟩ := List.pairwise_cons.1 hclock
    exact ih _ hxs (soundBefore_step c x xs s hx hs)

/-- Whatever is asked and whichever calls of the store fail, after each exchange every workspace
that is kept is kept under its own id and is sound, if nothing was kept at first and the clock does
not go back. -/
theorem every_workspace_kept_is_sound (c : Config) (xs before : List Exchange)
    (hclock : ClockRuns xs) (hbefore : before <+: xs) :
    ∀ e ∈ (storeAfter c Store.empty before).entries, e.2.id = e.1 ∧ e.2.Sound := by
  rintro ⟨id, w⟩ he
  have hclock' : ClockRuns before := hclock.sublist hbefore.sublist
  have hempty : Store.empty.All (SoundBefore before) := by
    intro j v hv
    cases hv
  exact soundBefore_run c before _ hclock' hempty id w ((Store.find?_eq_some_iff _ w id).2 he)

/-! ## A short history -/

/-- A workspace is created, and renamed on the day after. -/
def Sample.history : List Exchange :=
  [creation, exchange 2 ⟨2⟩ "PATCH" "/api/v1/workspaces/00000000000000000000000000000001"
    "\x7b\"name\":\" two \"\x7d"]

theorem a_workspace_created_and_renamed_is_sound :
    (storeAfter Sample.config Store.empty Sample.history).entries.map (·.2.name) = ["two"] ∧
      ∀ e ∈ (storeAfter Sample.config Store.empty Sample.history).entries,
        e.2.id = e.1 ∧ e.2.Sound := by
  have hclock : ClockRuns Sample.history := by
    unfold ClockRuns
    decide +kernel
  refine ⟨by decide +kernel, ?_⟩
  exact every_workspace_kept_is_sound _ Sample.history Sample.history hclock List.prefix_rfl

end Http

end Workspaces
