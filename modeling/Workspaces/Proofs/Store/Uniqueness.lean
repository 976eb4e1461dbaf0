-- Every workspace of a store is kept under its own id and no two have the same name, whatever the
-- store was asked before. No index of names is kept: each write that takes a name looks for it.
import Workspaces.Proofs.Store.Calls

namespace Workspaces

namespace Store

/-- Every workspace is kept under its own id, and no name is there twice. -/
structure Orderly (s : Store) : Prop where
  keyed : ∀ id w, s.find? id = some w → w.id = id
  names : ∀ i j v w, s.find? i = some v → s.find? j = some w → v.name = w.name → i = j

/-! ## Names -/

/-- A name is taken if a workspace has it that is not excepted. -/
theorem nameTaken_iff (s : Store) (name : String) (except : Option Uuid) :
    s.nameTaken name except = true ↔
      ∃ j v, s.find? j = some v ∧ v.name = name ∧ some v.id ≠ except := by
  unfold nameTaken workspaces
  rw [List.any_eq_true]
  constructor
  · rintro ⟨v, hv, htest⟩
    obtain ⟨e, he, rfl⟩ := List.mem_map.1 hv
    refine ⟨e.1, e.2, (s.find?_eq_some_iff e.2 e.1).2 he, ?_⟩
    simpa using htest
  · rintro ⟨j, v, hv, hname, hid⟩
    refine ⟨v, List.mem_map.2 ⟨(j, v), (s.find?_eq_some_iff v j).1 hv, rfl⟩, ?_⟩
    simp [hname, hid]

/-- A workspace that is changed does not stand in the way of its own name. -/
theorem Orderly.nameTaken_except_iff {s : Store} (hs : s.Orderly) (name : String) (id : Uuid) :
    s.nameTaken name (some id) = true ↔ ∃ j v, s.find? j = some v ∧ v.name = name ∧ j ≠ id := by
  rw [nameTaken_iff]
  constructor
  · rintro ⟨j, v, hv, hname, hid⟩
    refine ⟨j, v, hv, hname, fun hj => hid ?_⟩
    rw [hs.keyed j v hv, hj]
  · rintro ⟨j, v, hv, hname, hj⟩
    refine ⟨j, v, hv, hname, fun hid => hj ?_⟩
    rw [← hs.keyed j v hv]
    exact Option.some.inj hid

/-! ## What the writes preserve -/

variable {s : Store}

theorem orderly_empty : empty.Orderly where
  keyed := by simp
  names := by simp

/-- A workspace can be put where another one was, whose name is then free again. -/
theorem Orderly.put (hs : s.Orderly) (w : Workspace)
    (hfree : ∀ j v, s.find? j = some v → j ≠ w.id → v.name ≠ w.name) : (s.put w).Orderly := by
  refine ⟨fun j v hv => ?_, fun i j u v hu hv hname => ?_⟩
  · rw [find?_put] at hv
    split at hv
    · rename_i hj
      obtain rfl := Option.some.inj hv
      exact hj.symm
    · exact hs.keyed j v hv
  · rw [find?_put] at hu hv
    split at hu <;> split at hv
    · rename_i hi hj
      exact hi.trans hj.symm
    · rename_i hi hj
      obtain rfl := Option.some.inj hu
      exact absurd hname.symm (hfree j v hv hj)
    · rename_i hi hj
      obtain rfl := Option.some.inj hv
      exact absurd hname (hfree i u hu hi)
    · exact hs.names i j u v hu hv hname

theorem Orderly.erase (hs : s.Orderly) (id : Uuid) : (s.erase id).Orderly := by
  have hold : ∀ j v, (s.erase id).find? j = some v → s.find? j = some v := by
    intro j v hv
    rw [find?_erase] at hv
    split at hv
    · cases hv
    · exact hv
  refine ⟨fun j v hv => hs.keyed j v (hold j v hv), fun i j u v hu hv => ?_⟩
  exact hs.names i j u v (hold i u hu) (hold j v hv)

/-- A change in place leaves at most what putting the changed workspace leaves. -/
theorem find?_modify_of_found (id j : Uuid) (w : Workspace) (f : Workspace → Workspace)
    (hfind : s.find? id = some w) :
    (s.modify id f).find? j = if j = id then some (f w) else s.find? j := by
  rw [find?_modify]
  by_cases hj : j = id
  · rw [if_pos hj, if_pos hj, hj, hfind]
    rfl
  · rw [if_neg hj, if_neg hj]

/-- A workspace keeps its id and takes a name that no other one has. -/
theorem Orderly.modify (hs : s.Orderly) (id : Uuid) (w : Workspace) (f : Workspace → Workspace)
    (hfind : s.find? id = some w) (hid : (f w).id = w.id)
    (hfree : ∀ j v, s.find? j = some v → j ≠ id → v.name ≠ (f w).name) :
    (s.modify id f).Orderly := by
  have hw := hs.keyed id w hfind
  have hput := hs.put (f w) (by rwa [hid, hw])
  have hsame : ∀ j, (s.modify id f).find? j = (s.put (f w)).find? j := by
    intro j
    rw [find?_modify_of_found id j w f hfind, find?_put, hid, hw]
  refine ⟨fun j v hv => hput.keyed j v ?_, fun i j u v hu hv => hput.names i j u v ?_ ?_⟩
  · rwa [← hsame]
  · rwa [← hsame]
  · rwa [← hsame]

/-- A name that a workspace gave up, while nothing else was changed, is free. -/
theorem Orderly.free_of_given_up (hs : s.Orderly) {s' : Store} {i k : Uuid} {v : Workspace}
    (hbut : s.SameBut k s') (hv : s.find? i = some v)
    (hgone : ∀ u, s'.find? i = some u → u.name ≠ v.name) :
    ∀ j u, s'.find? j = some u → u.name ≠ v.name := by
  intro j u hu hname
  by_cases hik : i = k
  · by_cases hji : j = i
    · exact hgone u (hji ▸ hu) hname
    · rw [hbut j (hik ▸ hji)] at hu
      exact hji (hs.names j i u v hu hv hname)
  · rw [← hbut i hik] at hv
    exact hgone v hv rfl

/-! ## Calls, one after another -/

/-- The store after calls, one after another. -/
def after (s : Store) : List StoreCall → Store
  | [] => s
  | c :: cs => after (c.run s).2 cs

end Store

namespace StoreCall

variable {s : Store}

open Store

/-- What an insertion comes to. -/
theorem run_insert_cases (s : Store) (w : Workspace) :
    ((∃ j v, s.find? j = some v ∧ v.name = w.name) ∧
      (insert w).run s = (.error nameConflict, s)) ∨
    ((∀ j v, s.find? j = some v → v.name ≠ w.name) ∧ (insert w).run s = (.ok w, s.put w)) := by
  by_cases htaken : s.nameTaken w.name none = true
  · obtain ⟨j, v, hv, hname, _⟩ := (nameTaken_iff s w.name none).1 htaken
    exact .inl ⟨⟨j, v, hv, hname⟩, run_insert_taken s w htaken⟩
  · refine .inr ⟨fun j v hv hname => htaken ?_, run_insert_free s w (by simpa using htaken)⟩
    exact (nameTaken_iff s w.name none).2 ⟨j, v, hv, hname, by simp⟩

/-- What a change comes to. -/
theorem run_update_cases (hs : s.Orderly) (id : Uuid) (changes : Changes) :
    (s.find? id = none ∧ (update id changes).run s = (.ok none, s)) ∨
    ∃ w, s.find? id = some w ∧
      (((∃ name ∈ changes.name, ∃ j v, s.find? j = some v ∧ v.name = name ∧ j ≠ id) ∧
        (update id changes).run s = (.error nameConflict, s)) ∨
      ((∀ name ∈ changes.name, ∀ j v, s.find? j = some v → j ≠ id → v.name ≠ name) ∧
        (update id changes).run s =
          (.ok (some (changes.apply w)), s.modify id changes.apply))) := by
  cases hfind : s.find? id with
  | none => exact .inl ⟨rfl, run_update_absent s id changes hfind⟩
  | some w =>
    refine .inr ⟨w, rfl, ?_⟩
    have hclash : clashes s id changes = true ↔
        ∃ name ∈ changes.name, ∃ j v, s.find? j = some v ∧ v.name = name ∧ j ≠ id := by
      unfold clashes
      rw [Option.any_eq_true]
      simp only [hs.nameTaken_except_iff, Option.mem_def]
    by_cases htaken : clashes s id changes = true
    · exact .inl ⟨hclash.1 htaken, run_update_taken s w id changes hfind htaken⟩
    · refine .inr ⟨fun name hname j v hv hj htext => htaken ?_, ?_⟩
      · exact hclash.2 ⟨name, hname, j, v, hv, htext, hj⟩
      · exact run_update_free s w id changes hfind (by simpa using htaken)

/-- Whichever call it is, a store stays orderly. -/
theorem orderly_run (hs : s.Orderly) (c : StoreCall) : (c.run s).2.Orderly := by
  cases c with
  | insert w =>
    rcases run_insert_cases s w with ⟨_, hrun⟩ | ⟨hfree, hrun⟩
    · rw [hrun]
      exact hs
    · rw [hrun]
      exact hs.put w fun j v hv _ => hfree j v hv
  | update id changes =>
    rcases run_update_cases hs id changes with ⟨_, hrun⟩ | ⟨w, hfind, ⟨_, hrun⟩ | ⟨hfree, hrun⟩⟩
    · rw [hrun]
      exact hs
    · rw [hrun]
      exact hs
    · rw [hrun]
      refine hs.modify id w changes.apply hfind rfl fun j v hv hj => ?_
      -- A name that is not changed is the one that was there.
      cases hname : changes.name with
      | none =>
        intro heq
        refine hj (hs.names j id v w hv hfind ?_)
        simpa [Changes.apply, hname] using heq
      | some name =>
        intro heq
        refine hfree name hname j v hv hj ?_
        simpa [Changes.apply, hname] using heq
  | delete id => exact hs.erase id
  | find | list | count | ping => exact hs

end StoreCall

/-- All that a dialogue does to a store is done by calls. -/
theorem Dialogue.run_eq_after {α : Type} (outage : Outage) (d : Dialogue α) (s : Store) :
    ∃ calls, (d.run outage s).2 = s.after calls := by
  induction d generalizing s with
  | answer a => exact ⟨[], rfl⟩
  | call c next ih =>
    rw [run_call]
    rcases StoreCall.runUnder_cases outage s c with ⟨fault, hrun⟩ | hrun
    · rw [hrun]
      exact ih _ s
    · rw [hrun]
      obtain ⟨calls, hcalls⟩ := ih (c.run s).1 (c.run s).2
      exact ⟨c :: calls, hcalls⟩

namespace Store

theorem Orderly.after {s : Store} (hs : s.Orderly) (calls : List StoreCall) :
    (s.after calls).Orderly := by
  induction calls generalizing s with
  | nil => exact hs
  | cons c cs ih => exact ih (StoreCall.orderly_run hs c)

/-- A property of a workspace and the id it is found under, said of the entries. -/
theorem exists_entry_iff (s : Store) (P : Uuid → Workspace → Prop) :
    (∃ e ∈ s.entries, P e.1 e.2) ↔ ∃ j v, s.find? j = some v ∧ P j v := by
  constructor
  · rintro ⟨e, he, hp⟩
    exact ⟨e.1, e.2, (s.find?_eq_some_iff e.2 e.1).2 he, hp⟩
  · rintro ⟨j, v, hv, hp⟩
    exact ⟨(j, v), (s.find?_eq_some_iff v j).1 hv, hp⟩

/-- Whatever an empty store was asked, with whichever ids, names and changes: every workspace is
kept under its own id and no two have the same name. What is inserted is kept, in place of what was
under its id, unless its name is there, be it under the same id. What is changed is kept as changed
if it is there, unless another workspace has its new name. -/
theorem ids_and_names_stay_unique (calls : List StoreCall) :
    let s := empty.after calls
    (∀ e ∈ s.entries, e.2.id = e.1) ∧
    (∀ e ∈ s.entries, ∀ f ∈ s.entries, e.2.name = f.2.name → e = f) ∧
    (∀ w : Workspace,
      let (answer, s') := (StoreCall.insert w).run s
      (answer = .error nameConflict ↔ ∃ e ∈ s.entries, e.2.name = w.name) ∧
      (answer = .error nameConflict → s' = s) ∧
      (answer ≠ .error nameConflict →
        answer = .ok w ∧ ∀ j, s'.find? j = if j = w.id then some w else s.find? j)) ∧
    ∀ (id : Uuid) (changes : Changes),
      let (answer, s') := (StoreCall.update id changes).run s
      (answer = .ok none ↔ ∀ e ∈ s.entries, e.1 ≠ id) ∧
      (answer = .error nameConflict ↔ (∃ e ∈ s.entries, e.1 = id) ∧
        ∃ e ∈ s.entries, e.1 ≠ id ∧ changes.name = some e.2.name) ∧
      (answer = .ok none ∨ answer = .error nameConflict → s' = s) ∧
      (answer ≠ .ok none → answer ≠ .error nameConflict →
        ∃ w, (id, w) ∈ s.entries ∧ answer = .ok (some (changes.apply w)) ∧
          ∀ j, s'.find? j = if j = id then some (changes.apply w) else s.find? j) := by
  intro s
  have hs : s.Orderly := orderly_empty.after calls
  refine ⟨fun e he => ?_, fun e he f hf hname => ?_, fun w => ?_, fun id changes => ?_⟩
  · exact hs.keyed e.1 e.2 ((s.find?_eq_some_iff e.2 e.1).2 he)
  · have hid : e.1 = f.1 := hs.names e.1 f.1 e.2 f.2 ((s.find?_eq_some_iff e.2 e.1).2 he)
      ((s.find?_eq_some_iff f.2 f.1).2 hf) hname
    exact List.inj_on_of_nodup_map s.ids_nodup he hf hid
  · rw [exists_entry_iff s fun _ v => v.name = w.name]
    rcases StoreCall.run_insert_cases s w with ⟨htaken, hrun⟩ | ⟨hfree, hrun⟩
    · rw [hrun]
      exact ⟨⟨fun _ => htaken, fun _ => rfl⟩, fun _ => rfl, fun h => absurd rfl h⟩
    · rw [hrun]
      refine ⟨⟨fun h => (by cases h), ?_⟩, fun h => (by cases h), fun _ => ⟨rfl, s.find?_put w⟩⟩
      rintro ⟨j, v, hv, hname⟩
      exact absurd hname (hfree j v hv)
  · rw [exists_entry_iff s fun j _ => j = id,
      exists_entry_iff s fun j v => j ≠ id ∧ changes.name = some v.name,
      ← s.find?_eq_none_iff id]
    rcases StoreCall.run_update_cases hs id changes with
      ⟨habsent, hrun⟩ | ⟨w, hfind, ⟨⟨name, hname, j, v, hv, htext, hj⟩, hrun⟩ | ⟨hfree, hrun⟩⟩
    · rw [hrun]
      refine ⟨⟨fun _ => habsent, fun _ => rfl⟩, ⟨fun h => (by cases h), ?_⟩, fun _ => rfl,
        fun h => absurd rfl h⟩
      rintro ⟨⟨j, v, hv, rfl⟩, _⟩
      rw [habsent] at hv
      cases hv
    · rw [hrun]
      refine ⟨⟨fun h => (by cases h), fun h => ?_⟩, ⟨fun _ => ?_, fun _ => rfl⟩, fun _ => rfl,
        fun _ h => absurd rfl h⟩
      · rw [hfind] at h
        cases h
      · subst htext
        exact ⟨⟨id, w, hfind, rfl⟩, j, v, hv, hj, hname⟩
    · rw [hrun]
      refine ⟨⟨fun h => (by cases h), fun h => ?_⟩, ⟨fun h => (by cases h), ?_⟩, fun h => ?_,
        fun _ _ => ⟨w, (s.find?_eq_some_iff w id).1 hfind, rfl, fun j => ?_⟩⟩
      · rw [hfind] at h
        cases h
      · rintro ⟨_, j, v, hv, hj, hname⟩
        exact absurd rfl (hfree v.name hname j v hv hj)
      · rcases h with h | h <;> cases h
      · exact find?_modify_of_found id j w changes.apply hfind

/-- Two workspaces under one id, one after the other, and then one with the name of the first. -/
def Sample.calls : List StoreCall :=
  [.insert { Workspace.blank with id := ⟨1⟩, name := "one" },
    .insert { Workspace.blank with id := ⟨1⟩, name := "two" },
    .insert { Workspace.blank with id := ⟨2⟩, name := "one" }]

theorem a_name_that_was_replaced_is_free_until_taken :
    (empty.after Sample.calls).entries.map (fun e => (e.1, e.2.name)) =
        [(⟨2⟩, "one"), (⟨1⟩, "two")] ∧
      ((StoreCall.update ⟨1⟩ { Changes.none with name := some "one" }).run
        (empty.after Sample.calls)).1 = .error nameConflict := by
  obtain ⟨_, _, _, hupdate⟩ := ids_and_names_stay_unique Sample.calls
  refine ⟨by decide +kernel, (hupdate ⟨1⟩ { Changes.none with name := some "one" }).2.1.2 ?_⟩
  decide +kernel

end Store

end Workspaces
