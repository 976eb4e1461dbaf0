-- Writes that have nothing to do with each other. A write looks at what is under its id and, if it
-- gives a name, at who has that already, and it changes nothing but what is under its id. So of two
-- writes under different ids that do not meet in a name neither notices whether the other came
-- first.
import Workspaces.Proofs.Store.CanonicalOrder

namespace Workspaces

/-! ## What a write is about -/

namespace StoreCall

/-- The id under which a call writes, if it writes. -/
def subject? : StoreCall → Option Uuid
  | insert w => some w.id
  | update id _ | delete id => some id
  | find _ | list .. | count | ping => none

/-- The name that a call would give to a workspace, if it gives one. -/
def newName? : StoreCall → Option String
  | insert w => some w.name
  | update _ changes => changes.name
  | delete _ | find _ | list .. | count | ping => none

end StoreCall

/-- The same workspaces have the name in both stores. -/
def Store.SameHolders (name : String) (s s' : Store) : Prop :=
  ∀ j v, v.name = name → (s'.find? j = some v ↔ s.find? j = some v)

theorem Store.SameHolders.nameTaken {name : String} {s s' : Store} (h : SameHolders name s s')
    (except : Option Uuid) : s'.nameTaken name except = s.nameTaken name except := by
  rw [Bool.eq_iff_iff, nameTaken_iff, nameTaken_iff]
  constructor
  · rintro ⟨j, v, hv, hname, hid⟩
    exact ⟨j, v, (h j v hname).1 hv, hname, hid⟩
  · rintro ⟨j, v, hv, hname, hid⟩
    exact ⟨j, v, (h j v hname).2 hv, hname, hid⟩

namespace StoreCall

open Store

variable {s s' : Store} {c : StoreCall} {id : Uuid}

/-! ## What a write looks at -/

/-- What comes of a write, and what it leaves under its id, is told by what is under that id and by
who has the name that the write gives. -/
theorem run_congr (hc : c.subject? = some id) (hhere : s'.find? id = s.find? id)
    (hnames : ∀ name ∈ c.newName?, SameHolders name s s') :
    (c.run s').1 = (c.run s).1 ∧ (c.run s').2.find? id = (c.run s).2.find? id := by
  cases c with
  | insert w =>
    obtain rfl := Option.some.inj hc
    have hsame := (hnames w.name rfl).nameTaken none
    by_cases htaken : s.nameTaken w.name none = true
    · rw [run_insert_taken s w htaken, run_insert_taken s' w (hsame.trans htaken)]
      exact ⟨rfl, hhere⟩
    · have hfree : s.nameTaken w.name none = false := by simpa using htaken
      rw [run_insert_free s w hfree, run_insert_free s' w (hsame.trans hfree)]
      refine ⟨rfl, ?_⟩
      rw [find?_put, find?_put, if_pos rfl, if_pos rfl]
  | update j changes =>
    obtain rfl := Option.some.inj hc
    have hsame : clashes s' j changes = clashes s j changes := by
      unfold clashes
      cases hname : changes.name with
      | none => rfl
      | some name => exact (hnames name hname).nameTaken (some j)
    cases hfind : s.find? j with
    | none =>
      rw [run_update_absent s j changes hfind, run_update_absent s' j changes (hhere.trans hfind)]
      exact ⟨rfl, hhere⟩
    | some w =>
      have hfind' : s'.find? j = some w := hhere.trans hfind
      by_cases htaken : clashes s j changes = true
      · rw [run_update_taken s w j changes hfind htaken,
          run_update_taken s' w j changes hfind' (hsame.trans htaken)]
        exact ⟨rfl, hhere⟩
      · have hfree : clashes s j changes = false := by simpa using htaken
        rw [run_update_free s w j changes hfind hfree,
          run_update_free s' w j changes hfind' (hsame.trans hfree)]
        refine ⟨rfl, ?_⟩
        rw [find?_modify, find?_modify, if_pos rfl, if_pos rfl, hhere]
  | delete j =>
    obtain rfl := Option.some.inj hc
    rw [run_delete, run_delete, hhere]
    refine ⟨rfl, ?_⟩
    rw [find?_erase, find?_erase, if_pos rfl, if_pos rfl]
  | find | list | count | ping => cases hc

/-! ## What a write leaves -/

/-- A write is seen under its id only. -/
theorem sameBut_run (s : Store) (hc : c.subject? = some id) : s.SameBut id (c.run s).2 := by
  cases c with
  | insert w =>
    obtain rfl := Option.some.inj hc
    rcases run_insert_cases s w with ⟨_, hrun⟩ | ⟨_, hrun⟩
    · rw [hrun]
      exact fun _ _ => rfl
    · rw [hrun]
      exact s.sameBut_put w
  | update j changes =>
    obtain rfl := Option.some.inj hc
    cases hfind : s.find? j with
    | none =>
      rw [run_update_absent s j changes hfind]
      exact fun _ _ => rfl
    | some w =>
      by_cases htaken : clashes s j changes = true
      · rw [run_update_taken s w j changes hfind htaken]
        exact fun _ _ => rfl
      · rw [run_update_free s w j changes hfind (by simpa using htaken)]
        exact s.sameBut_modify j changes.apply
  | delete j =>
    obtain rfl := Option.some.inj hc
    exact s.sameBut_erase j
  | find | list | count | ping => cases hc

/-- What a write leaves under its id has the name that it gives, or that of what was there. -/
theorem name_of_run (s : Store) (hc : c.subject? = some id) {v : Workspace}
    (hv : (c.run s).2.find? id = some v) :
    c.newName? = some v.name ∨ ∃ u, s.find? id = some u ∧ u.name = v.name := by
  cases c with
  | insert w =>
    obtain rfl := Option.some.inj hc
    rcases run_insert_cases s w with ⟨_, hrun⟩ | ⟨_, hrun⟩
    · rw [hrun] at hv
      exact .inr ⟨v, hv, rfl⟩
    · rw [hrun, find?_put, if_pos rfl] at hv
      obtain rfl := Option.some.inj hv
      exact .inl rfl
  | update j changes =>
    obtain rfl := Option.some.inj hc
    cases hfind : s.find? j with
    | none =>
      rw [run_update_absent s j changes hfind, hfind] at hv
      cases hv
    | some w =>
      by_cases htaken : clashes s j changes = true
      · rw [run_update_taken s w j changes hfind htaken] at hv
        exact .inr ⟨v, hfind ▸ hv, rfl⟩
      · rw [run_update_free s w j changes hfind (by simpa using htaken), find?_modify, if_pos rfl,
          hfind] at hv
        obtain rfl := Option.some.inj hv
        -- A name that is not changed is the one that was there.
        cases hname : changes.name with
        | none => exact .inr ⟨w, rfl, by simp [Changes.apply, hname]⟩
        | some name => exact .inl (by simp [newName?, Changes.apply, hname])
  | delete j =>
    obtain rfl := Option.some.inj hc
    rw [run_delete, find?_erase, if_pos rfl] at hv
    cases hv
  | find | list | count | ping => cases hc

/-- A name that a write does not give, and that nothing under its id has, is held as before. -/
theorem sameHolders_run (s : Store) (hc : c.subject? = some id) {name : String}
    (hnew : c.newName? ≠ some name) (hheld : ∀ v ∈ s.find? id, v.name ≠ name) :
    SameHolders name s (c.run s).2 := by
  intro j v hname
  by_cases hj : j = id
  · subst hj
    constructor
    · intro hv
      rcases name_of_run s hc hv with hgiven | ⟨u, hu, hsame⟩
      · exact absurd (hname ▸ hgiven) hnew
      · exact absurd (hsame.trans hname) (hheld u hu)
    · intro hv
      exact absurd hname (hheld v hv)
  · rw [sameBut_run s hc j hj]

end StoreCall

namespace Store

variable {s s' : Store}

/-! ## Stores with the same entries -/

/-- Stores hold the same entries if they find the same. -/
theorem perm_iff_find? : s'.entries.Perm s.entries ↔ ∀ id, s'.find? id = s.find? id := by
  constructor
  · intro hperm id
    ext w
    rw [find?_eq_some_iff, find?_eq_some_iff, hperm.mem_iff]
  · intro hfind
    rw [List.perm_ext_iff_of_nodup (.of_map _ s'.ids_nodup) (.of_map _ s.ids_nodup)]
    rintro ⟨id, w⟩
    rw [← find?_eq_some_iff, ← find?_eq_some_iff, hfind]

/-- What calls are answered with, one after another. -/
def answers (s : Store) : List StoreCall → List ((c : StoreCall) × Except Fault c.Reply)
  | [] => []
  | c :: cs => ⟨c, (c.run s).1⟩ :: answers (c.run s).2 cs

/-- A call does not see in which order the entries are held. -/
theorem run_of_perm (hs : s.Orderly) (hperm : s'.entries.Perm s.entries) (c : StoreCall) :
    (c.run s').1 = (c.run s).1 ∧ (c.run s').2.entries.Perm (c.run s).2.entries := by
  have hfind := perm_iff_find?.1 hperm
  cases hc : c.subject? with
  | some id =>
    obtain ⟨hanswer, hhere⟩ := StoreCall.run_congr hc (hfind id) fun _ _ j v _ => by rw [hfind j]
    refine ⟨hanswer, perm_iff_find?.2 fun j => ?_⟩
    by_cases hj : j = id
    · rw [hj]
      exact hhere
    · rw [StoreCall.sameBut_run s' hc j hj, StoreCall.sameBut_run s hc j hj]
      exact hfind j
  | none =>
    cases c with
    | find id => exact ⟨congrArg Except.ok (hfind id), hperm⟩
    | list offset limit =>
      refine ⟨congrArg Except.ok ?_, hperm⟩
      unfold list
      rw [hs.keyed_entries.listing_of_perm hperm]
    | count => exact ⟨congrArg (fun n : Nat => Except.ok (n : Int)) hperm.length_eq, hperm⟩
    | ping => exact ⟨rfl, hperm⟩
    | insert | update | delete => cases hc

theorem answers_of_perm (hs : s.Orderly) (hperm : s'.entries.Perm s.entries)
    (calls : List StoreCall) : s'.answers calls = s.answers calls := by
  induction calls generalizing s s' with
  | nil => rfl
  | cons c cs ih =>
    obtain ⟨hanswer, hperm'⟩ := run_of_perm hs hperm c
    unfold answers
    rw [hanswer, ih (StoreCall.orderly_run hs c) hperm']

/-! ## Two writes -/

/-- No name that the one call gives is given by the other or is held under the id of the other. -/
def Spares (s : Store) (c d : StoreCall) : Prop :=
  ∀ name ∈ c.newName?, d.newName? ≠ some name ∧ ∀ id ∈ d.subject?, ∀ v ∈ s.find? id, v.name ≠ name

/-- A write that spares another one comes to the same after it. -/
theorem run_after_spared (s : Store) {c d : StoreCall} {i j : Uuid} (hc : c.subject? = some i)
    (hd : d.subject? = some j) (hij : i ≠ j) (hspares : s.Spares c d) :
    (c.run (d.run s).2).1 = (c.run s).1 ∧
      (c.run (d.run s).2).2.find? i = (c.run s).2.find? i := by
  refine StoreCall.run_congr hc (StoreCall.sameBut_run s hd i hij) fun name hname => ?_
  obtain ⟨hnew, hheld⟩ := hspares name hname
  exact StoreCall.sameHolders_run s hd hnew (hheld j hd)

/-- Whatever a store was asked before, of two writes under different ids, of which neither gives a
name that the other gives or that is held under the id of the other, each comes to the same
whichever is first, and both orders leave the same entries. From then on nothing that is asked of
the store is answered differently. -/
theorem independent_writes_commute (calls : List StoreCall) (c d : StoreCall) (i j : Uuid)
    (hc : c.subject? = some i) (hd : d.subject? = some j) (hij : i ≠ j)
    (hspares : (empty.after calls).Spares c d) (hspared : (empty.after calls).Spares d c) :
    let s := empty.after calls
    let cd := (d.run (c.run s).2).2
    let dc := (c.run (d.run s).2).2
    (c.run (d.run s).2).1 = (c.run s).1 ∧ (d.run (c.run s).2).1 = (d.run s).1 ∧
      cd.entries.Perm dc.entries ∧ ∀ later, cd.answers later = dc.answers later := by
  intro s cd dc
  obtain ⟨hanswer, hfind⟩ := s.run_after_spared hc hd hij hspares
  obtain ⟨hanswer', hfind'⟩ := s.run_after_spared hd hc hij.symm hspared
  have hperm : cd.entries.Perm dc.entries := by
    refine perm_iff_find?.2 fun k => ?_
    by_cases hi : k = i
    · -- The write under the other id leaves alone what this one has left.
      rw [hi]
      exact (StoreCall.sameBut_run _ hd i hij).trans hfind.symm
    · by_cases hj : k = j
      · rw [hj]
        exact hfind'.trans (StoreCall.sameBut_run _ hc j hij.symm).symm
      · calc cd.find? k = (c.run s).2.find? k := StoreCall.sameBut_run _ hd k hj
          _ = s.find? k := StoreCall.sameBut_run s hc k hi
          _ = (d.run s).2.find? k := (StoreCall.sameBut_run s hd k hj).symm
          _ = dc.find? k := (StoreCall.sameBut_run _ hc k hi).symm
  have hdc : dc.Orderly :=
    StoreCall.orderly_run (StoreCall.orderly_run (orderly_empty.after calls) d) c
  exact ⟨hanswer, hanswer', hperm, answers_of_perm hdc hperm⟩

/-- A workspace takes the place of one with another name, and a second one is renamed: the name that
became free can be taken after either order. -/
theorem a_replacement_and_a_renaming_commute :
    let replacement := StoreCall.insert { Workspace.blank with id := ⟨1⟩, name := "three" }
    let relabelling := StoreCall.update ⟨2⟩ { Changes.none with name := some "four" }
    let s := empty.after Sample.calls
    (s.find? ⟨1⟩).map (·.name) = some "two" ∧
      (relabelling.run (replacement.run s).2).1 = (relabelling.run s).1 ∧
      ∀ later, (relabelling.run (replacement.run s).2).2.answers later =
        (replacement.run (relabelling.run s).2).2.answers later := by
  intro replacement relabelling s
  have hspares : s.Spares replacement relabelling := by
    rintro name ⟨⟩
    refine ⟨by decide, ?_⟩
    rintro id ⟨⟩
    decide +kernel
  have hspared : s.Spares relabelling replacement := by
    rintro name ⟨⟩
    refine ⟨by decide, ?_⟩
    rintro id ⟨⟩
    decide +kernel
  obtain ⟨_, hanswer, _, hlater⟩ := independent_writes_commute Sample.calls replacement relabelling
    ⟨1⟩ ⟨2⟩ rfl rfl (by decide) hspares hspared
  exact ⟨by decide +kernel, hanswer, hlater⟩

end Store

end Workspaces
