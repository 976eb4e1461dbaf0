-- Changes made one after another: of each field the last change that sets it decides, so one change
-- does what many do.
import Workspaces.Workspace.Changes

namespace Workspaces

/-- What the edit leaves, if it does not keep what was there. -/
def Edit.outcome? {α : Type} : Edit α → Option (Option α)
  | keep => none
  | clear => some none
  | write x => some (some x)

theorem Edit.apply_eq {α : Type} (e : Edit α) (old : Option α) :
    e.apply old = e.outcome?.getD old := by
  cases e <;> rfl

/-- An edit is told by what it leaves. To keep is not to leave nothing. -/
theorem Edit.outcome?_inj {α : Type} {e f : Edit α} (h : e.outcome? = f.outcome?) : e = f := by
  cases e <;> cases f <;> simp_all [outcome?]

namespace Changes

/-- The workspace after changes, one after another. -/
def applyAll (cs : List Changes) (w : Workspace) : Workspace := cs.foldl (fun w c => c.apply w) w

/-- A value that each step sets or leaves is after all steps the one last set, or the one it was. -/
theorem read_foldl {σ β : Type} (step : σ → Changes → σ) (read : σ → β)
    (set? : Changes → Option β) (h : ∀ s c, read (step s c) = (set? c).getD (read s))
    (cs : List Changes) (s : σ) :
    read (cs.foldl step s) = (cs.filterMap set?).getLast?.getD (read s) := by
  induction cs generalizing s with
  | nil => rfl
  | cons c cs ih =>
    rw [List.foldl_cons, ih, h]
    cases hc : set? c with
    | none => simp [hc]
    | some x =>
      rw [List.filterMap_cons_some hc, List.getLast?_cons]
      cases (cs.filterMap set?).getLast? <;> rfl

/-- A value that each change sets or keeps is the one last set, or the one it was. -/
theorem read_applyAll {β : Type} (read : Workspace → β) (set? : Changes → Option β)
    (h : ∀ c w, read (apply c w) = (set? c).getD (read w)) (cs : List Changes) (w : Workspace) :
    read (applyAll cs w) = (cs.filterMap set?).getLast?.getD (read w) :=
  read_foldl (fun w c => c.apply w) read set? (fun w c => h c w) cs w

/-- A value that no change sets stays. -/
theorem keep_applyAll {β : Type} (read : Workspace → β) (h : ∀ c w, read (apply c w) = read w)
    (cs : List Changes) (w : Workspace) : read (applyAll cs w) = read w := by
  have hnone : cs.filterMap (fun _ => (.none : Option β)) = [] :=
    List.filterMap_eq_nil_iff.2 fun _ _ => rfl
  rw [read_applyAll read (fun _ => .none) h, hnone]
  rfl

/-- Of each field the last change that sets it decides. -/
structure Latest (cs : List Changes) (w w' : Workspace) : Prop where
  id : w'.id = w.id
  name : w'.name = (cs.filterMap (·.name)).getLast?.getD w.name
  description : w'.description =
    (cs.filterMap (·.description.outcome?)).getLast?.getD w.description
  icon : w'.icon = (cs.filterMap (·.icon.outcome?)).getLast?.getD w.icon
  color : w'.color = (cs.filterMap (·.color.outcome?)).getLast?.getD w.color
  state : w'.state = (cs.filterMap (·.state)).getLast?.getD w.state
  createdAt : w'.createdAt = w.createdAt
  updatedAt : w'.updatedAt = (cs.filterMap (·.updatedAt)).getLast?.getD w.updatedAt

theorem latest_applyAll (cs : List Changes) (w : Workspace) : Latest cs w (applyAll cs w) where
  id := keep_applyAll (·.id) (fun _ _ => rfl) cs w
  name := read_applyAll (·.name) (·.name) (fun _ _ => rfl) cs w
  description := read_applyAll (·.description) _ (fun c _ => c.description.apply_eq _) cs w
  icon := read_applyAll (·.icon) _ (fun c _ => c.icon.apply_eq _) cs w
  color := read_applyAll (·.color) _ (fun c _ => c.color.apply_eq _) cs w
  state := read_applyAll (·.state) (·.state) (fun _ _ => rfl) cs w
  createdAt := keep_applyAll (·.createdAt) (fun _ _ => rfl) cs w
  updatedAt := read_applyAll (·.updatedAt) (·.updatedAt) (fun _ _ => rfl) cs w

end Changes

/-! ## One change for many -/

namespace Edit

variable {α : Type}

/-- Two edits one after another as one: the second, unless that keeps. -/
def andThen (e : Edit α) : Edit α → Edit α
  | keep => e
  | f => f

theorem outcome?_andThen (e f : Edit α) :
    (e.andThen f).outcome? = f.outcome?.or e.outcome? := by
  cases f <;> rfl

theorem apply_andThen (e f : Edit α) (old : Option α) :
    (e.andThen f).apply old = f.apply (e.apply old) := by
  cases f <;> rfl

theorem andThen_self (e : Edit α) : e.andThen e = e := by
  cases e <;> rfl

end Edit

namespace Changes

/-- Two changes one after another as one: of each field the second, unless that keeps it. -/
def andThen (c d : Changes) : Changes where
  name := d.name.or c.name
  description := c.description.andThen d.description
  icon := c.icon.andThen d.icon
  color := c.color.andThen d.color
  state := d.state.or c.state
  updatedAt := d.updatedAt.or c.updatedAt

/-- Changes one after another as one. -/
def merged (cs : List Changes) : Changes := cs.foldl andThen none

/-- The change keeps for each field the last setting of the list, and a field that no change of the
list sets, it does not set either. -/
structure KeepsLast (cs : List Changes) (c : Changes) : Prop where
  name : c.name = (cs.filterMap (·.name)).getLast?
  description : c.description.outcome? = (cs.filterMap (·.description.outcome?)).getLast?
  icon : c.icon.outcome? = (cs.filterMap (·.icon.outcome?)).getLast?
  color : c.color.outcome? = (cs.filterMap (·.color.outcome?)).getLast?
  state : c.state = (cs.filterMap (·.state)).getLast?
  updatedAt : c.updatedAt = (cs.filterMap (·.updatedAt)).getLast?

/-- There is one such change. -/
theorem KeepsLast.unique {cs : List Changes} {c d : Changes} (hc : KeepsLast cs c)
    (hd : KeepsLast cs d) : c = d := by
  have hname := hc.name.trans hd.name.symm
  have hdescription := Edit.outcome?_inj (hc.description.trans hd.description.symm)
  have hicon := Edit.outcome?_inj (hc.icon.trans hd.icon.symm)
  have hcolor := Edit.outcome?_inj (hc.color.trans hd.color.symm)
  have hstate := hc.state.trans hd.state.symm
  have hupdated := hc.updatedAt.trans hd.updatedAt.symm
  cases c
  cases d
  simp_all

/-- A setting that the second of two changes decides where it has it is after all of them the last
one that there was. -/
theorem setting_merged {β : Type} (set? : Changes → Option β)
    (h : ∀ c d, set? (andThen c d) = (set? d).or (set? c)) (hnone : set? none = .none)
    (cs : List Changes) : set? (merged cs) = (cs.filterMap set?).getLast? := by
  have hstep : ∀ c d, set? (andThen c d) = ((set? d).map some).getD (set? c) := by
    intro c d
    rw [h]
    cases set? d <;> rfl
  have hlast := read_foldl andThen set? (fun d => (set? d).map some) hstep cs none
  rw [← List.map_filterMap, List.getLast?_map, hnone] at hlast
  unfold merged
  rw [hlast]
  cases (cs.filterMap set?).getLast? <;> rfl

theorem keepsLast_merged (cs : List Changes) : KeepsLast cs (merged cs) where
  name := setting_merged (·.name) (fun _ _ => rfl) rfl cs
  description := setting_merged (·.description.outcome?) (fun _ _ => Edit.outcome?_andThen _ _) rfl cs
  icon := setting_merged (·.icon.outcome?) (fun _ _ => Edit.outcome?_andThen _ _) rfl cs
  color := setting_merged (·.color.outcome?) (fun _ _ => Edit.outcome?_andThen _ _) rfl cs
  state := setting_merged (·.state) (fun _ _ => rfl) rfl cs
  updatedAt := setting_merged (·.updatedAt) (fun _ _ => rfl) rfl cs

/-! ## Changes as an action -/

theorem apply_none (w : Workspace) : none.apply w = w := rfl

theorem apply_andThen (c d : Changes) (w : Workspace) :
    (c.andThen d).apply w = d.apply (c.apply w) := by
  simp only [apply, andThen, Option.getD_or, Edit.apply_andThen]

theorem applyAll_eq_apply_merged (cs : List Changes) (w : Workspace) :
    applyAll cs w = (merged cs).apply w := by
  have hfold : ∀ c, (cs.foldl andThen c).apply w = applyAll cs (c.apply w) := by
    unfold applyAll
    induction cs with
    | nil => exact fun _ => rfl
    | cons d cs ih =>
      intro c
      rw [List.foldl_cons, List.foldl_cons, ih, apply_andThen]
  unfold merged
  rw [hfold, apply_none]

/-- To make a change again changes nothing more. -/
theorem apply_apply (c : Changes) (w : Workspace) : c.apply (c.apply w) = c.apply w := by
  rw [← apply_andThen]
  simp only [andThen, Option.or_self, Edit.andThen_self]

/-- After changes that are made one after another each field is as the last change that sets it
leaves it, and the id and the time of creation are what they were. The one change that keeps of each
field the last setting does the same, and to make all of them again changes nothing more. -/
theorem changes_act_by_what_they_set_last (cs : List Changes) :
    (∀ c, KeepsLast cs c ↔ c = merged cs) ∧
    ∀ w, Latest cs w (applyAll cs w) ∧ applyAll cs w = (merged cs).apply w ∧
      applyAll (cs ++ cs) w = applyAll cs w := by
  constructor
  · intro c
    constructor
    · exact fun h => h.unique (keepsLast_merged cs)
    · rintro rfl
      exact keepsLast_merged cs
  · intro w
    refine ⟨latest_applyAll cs w, applyAll_eq_apply_merged cs w, ?_⟩
    calc applyAll (cs ++ cs) w
        = applyAll cs (applyAll cs w) := List.foldl_append
      _ = (merged cs).apply ((merged cs).apply w) := by simp only [applyAll_eq_apply_merged]
      _ = applyAll cs w := by rw [apply_apply, applyAll_eq_apply_merged]

end Changes

end Workspaces
