-- What is found in a store after each of its writes. A write under one id is seen under that id
-- only, so every law of the entries is read off `find?`.
import Mathlib.Data.List.Nodup
import Workspaces.Store.Basic

namespace Workspaces.Store

variable (s : Store) (w : Workspace) (id j : Uuid)

/-! ## Finding -/

/-- Ids are unique, so what is found under an id is the one entry that has it. -/
theorem find?_eq_some_iff : s.find? id = some w ↔ (id, w) ∈ s.entries := by
  unfold find?
  constructor
  · intro h
    obtain ⟨e, he, hw⟩ := Option.map_eq_some_iff.1 h
    have hid : e.1 = id := by simpa using List.find?_some he
    have hmem := List.mem_of_find?_eq_some he
    rwa [← hid, ← hw]
  · intro h
    obtain ⟨e, he⟩ : ∃ e, s.entries.find? (·.1 = id) = some e := by
      apply Option.isSome_iff_exists.1
      rw [List.find?_isSome]
      exact ⟨(id, w), h, by simp⟩
    have hid : e.1 = id := by simpa using List.find?_some he
    have heq : e = (id, w) :=
      List.inj_on_of_nodup_map s.ids_nodup (List.mem_of_find?_eq_some he) h hid
    rw [he, heq]
    rfl

theorem find?_eq_none_iff : s.find? id = none ↔ ∀ e ∈ s.entries, e.1 ≠ id := by
  unfold find?
  rw [Option.map_eq_none_iff, List.find?_eq_none]
  simp

@[simp] theorem contains_eq_isSome : s.contains id = (s.find? id).isSome := by
  unfold contains find?
  rw [Option.isSome_map, Bool.eq_iff_iff, List.any_eq_true, List.find?_isSome]

@[simp] theorem find?_empty : empty.find? id = none := rfl

/-! ## Finding after a write -/

theorem find?_erase : (s.erase id).find? j = if j = id then none else s.find? j := by
  unfold find? erase
  rw [List.find?_filter]
  by_cases hj : j = id
  · subst hj
    rw [if_pos rfl, Option.map_eq_none_iff, List.find?_eq_none]
    simp
  · rw [if_neg hj]
    congr 2
    funext e
    by_cases he : e.1 = j
    · simp [he, hj]
    · simp [he]

theorem find?_put : (s.put w).find? j = if j = w.id then some w else s.find? j := by
  by_cases hj : j = w.id
  · subst hj
    simp [find?, put]
  · have herase : (s.erase w.id).find? j = s.find? j := by rw [find?_erase, if_neg hj]
    rw [if_neg hj, ← herase]
    unfold find? put
    rw [List.find?_cons_of_neg (by simpa using Ne.symm hj)]

theorem find?_modify (f : Workspace → Workspace) :
    (s.modify id f).find? j = if j = id then (s.find? j).map f else s.find? j := by
  unfold find? modify
  have hkey : ((fun e : Uuid × Workspace => decide (e.1 = j)) ∘
      fun e => if e.1 = id then (e.1, f e.2) else e) = fun e => decide (e.1 = j) := by
    funext e
    by_cases he : e.1 = id <;> simp [he]
  rw [List.find?_map, hkey]
  rcases hf : s.entries.find? (·.1 = j) with _ | e
  · simp only [hf, Option.map_none, ite_self]
  · have hid : e.1 = j := by simpa using List.find?_some hf
    simp only [hf, Option.map_some, hid]
    split <;> rfl

/-- Under every id but one, two stores hold the same. -/
def SameBut (id : Uuid) (s s' : Store) : Prop := ∀ j, j ≠ id → s'.find? j = s.find? j

theorem sameBut_put : SameBut w.id s (s.put w) := by
  intro j hj
  rw [find?_put, if_neg hj]

theorem sameBut_modify (f : Workspace → Workspace) : SameBut id s (s.modify id f) := by
  intro j hj
  rw [find?_modify, if_neg hj]

theorem sameBut_erase : SameBut id s (s.erase id) := by
  intro j hj
  rw [find?_erase, if_neg hj]

/-- To remove what is not there changes nothing. -/
theorem erase_of_absent (h : s.find? id = none) : s.erase id = s := by
  have hkeep : s.entries.filter (·.1 ≠ id) = s.entries := by
    rw [List.filter_eq_self]
    intro e he
    exact decide_eq_true ((s.find?_eq_none_iff id).1 h e he)
  unfold erase
  simp only [hkeep]

/-! ## Counting -/

theorem count_put (h : s.find? w.id = none) : (s.put w).count = s.count + 1 := by
  unfold count put
  rw [List.length_cons, s.erase_of_absent w.id h]

theorem count_erase (h : s.find? id = some w) : (s.erase id).count + 1 = s.count := by
  have hmem : id ∈ s.entries.map (·.1) := List.mem_map.2 ⟨_, (s.find?_eq_some_iff w id).1 h, rfl⟩
  have hone : s.entries.countP (fun e => e.1 = id) = 1 := by
    rw [← List.count_eq_one_of_mem s.ids_nodup hmem, List.count, List.countP_map]
    rfl
  have hsplit := List.length_eq_countP_add_countP (fun e : Uuid × Workspace => e.1 = id)
    (l := s.entries)
  unfold count erase
  rw [hsplit, hone, List.countP_eq_length_filter]
  simp [Nat.add_comm]

/-- What is put in the place of another workspace is one as well. -/
theorem count_put_of_found (v : Workspace) (h : s.find? w.id = some v) :
    (s.put w).count = s.count := by
  rw [← s.count_erase v w.id h]
  rfl

@[simp] theorem count_modify (f : Workspace → Workspace) : (s.modify id f).count = s.count := by
  simp [count, modify]

end Workspaces.Store
