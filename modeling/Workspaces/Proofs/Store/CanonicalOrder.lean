-- The listing is the one order of all workspaces: in whatever order a store holds them, it lists the
-- same workspaces in the same places, and each of its pages is a part of that order.
import Workspaces.Proofs.Store.Listing
import Workspaces.Proofs.Store.Uniqueness

namespace Workspaces.Store

/-! ## The order -/

/-- All workspaces of a store, each once, the newer before the older, and of two as old as each other
the one with the lower id first. -/
structure Enumerates (s : Store) (ws : List Workspace) : Prop where
  once : ws.Nodup
  all : ∀ w, w ∈ ws ↔ ∃ id, (id, w) ∈ s.entries
  sorted : ws.Pairwise Precedes

/-- Every workspace is kept under its own id. -/
def Keyed (s : Store) : Prop := ∀ e ∈ s.entries, e.2.id = e.1

theorem Orderly.keyed_entries {s : Store} (hs : s.Orderly) : s.Keyed := by
  intro e he
  exact hs.keyed e.1 e.2 ((s.find?_eq_some_iff e.2 e.1).2 he)

namespace Keyed

variable {s s' : Store}

theorem of_perm (h : s.Keyed) (hperm : s'.entries.Perm s.entries) : s'.Keyed := by
  intro e he
  apply h
  exact hperm.mem_iff.1 he

theorem workspaces_nodup (h : s.Keyed) : s.workspaces.Nodup := by
  have hids : s.workspaces.map (·.id) = s.entries.map (·.1) := by
    unfold workspaces
    rw [List.map_map]
    apply List.map_congr_left
    intro e he
    exact h e he
  apply List.Nodup.of_map (·.id)
  rw [hids]
  exact s.ids_nodup

/-- Workspaces with the same id are the same one. -/
theorem eq_of_id (h : s.Keyed) {v w : Workspace} (hv : ∃ id, (id, v) ∈ s.entries)
    (hw : ∃ id, (id, w) ∈ s.entries) (hid : v.id = w.id) : v = w := by
  obtain ⟨i, hi⟩ := hv
  obtain ⟨j, hj⟩ := hw
  have hij : i = j := by
    have hvi : v.id = i := h _ hi
    have hwj : w.id = j := h _ hj
    rw [← hvi, ← hwj]
    exact hid
  have hsame := List.inj_on_of_nodup_map s.ids_nodup hi hj hij
  exact (Prod.ext_iff.1 hsame).2

theorem enumerates_listing (h : s.Keyed) : s.Enumerates s.listing where
  once := s.listing_perm.nodup_iff.2 h.workspaces_nodup
  all w := by
    rw [s.listing_perm.mem_iff]
    simp [workspaces]
  sorted := s.listing_sorted

/-- There is one order only. -/
theorem enumerates_unique (h : s.Keyed) {ws vs : List Workspace} (hws : s.Enumerates ws)
    (hvs : s.Enumerates vs) : ws = vs := by
  have hperm : ws.Perm vs := by
    rw [List.perm_ext_iff_of_nodup hws.once hvs.once]
    intro w
    rw [hws.all, hvs.all]
  apply hperm.eq_of_pairwise _ hws.sorted hvs.sorted
  intro v w hv hw hvw hwv
  exact h.eq_of_id ((hws.all v).1 hv) ((hvs.all w).1 hw) (hvw.id_eq hwv)

/-- Stores that hold the same entries list them alike. -/
theorem listing_of_perm (h : s.Keyed) (hperm : s'.entries.Perm s.entries) :
    s'.listing = s.listing := by
  have hthere := (h.of_perm hperm).enumerates_listing
  have hhere : s.Enumerates s'.listing := by
    refine ⟨hthere.once, ?_, hthere.sorted⟩
    intro w
    rw [hthere.all]
    simp only [hperm.mem_iff]
  exact h.enumerates_unique hhere h.enumerates_listing

end Keyed

/-! ## Pages -/

/-- A page holds what the order holds behind its offset, up to its limit. -/
theorem length_list (s : Store) (offset limit : Int) : ((s.list offset limit).length : Int) =
    min (max limit 0) (max 0 (s.count - max offset 0)) := by
  unfold list
  rw [List.length_take, List.length_drop, length_listing]
  omega

/-- If every workspace of a store is kept under its own id, there is one order of them all, and in
whatever order the store holds its entries, a page is what stands in that order behind as many
workspaces as the offset says, up to as many as the limit says. A negative number counts as zero. -/
theorem every_page_is_a_part_of_the_one_order (s : Store) (hkeyed : s.Keyed) :
    ∃ order, s.Enumerates order ∧ (∀ other, s.Enumerates other → other = order) ∧
      ∀ s' : Store, s'.entries.Perm s.entries → ∀ offset limit : Int,
        s'.list offset limit = (order.drop (max offset 0).toNat).take (max limit 0).toNat ∧
        ((s'.list offset limit).length : Int) =
          min (max limit 0) (max 0 (s.count - max offset 0)) := by
  refine ⟨s.listing, hkeyed.enumerates_listing, ?_, ?_⟩
  · intro other hother
    exact hkeyed.enumerates_unique hother hkeyed.enumerates_listing
  · intro s' hperm offset limit
    have hcount : s'.count = s.count := hperm.length_eq
    constructor
    · have hoffset : (max offset 0).toNat = offset.toNat := by omega
      have hlimit : (max limit 0).toNat = limit.toNat := by omega
      unfold list
      rw [hkeyed.listing_of_perm hperm, hoffset, hlimit]
    · rw [length_list, hcount]

/-- The entries of a store the other way round. -/
def Sample.turned (s : Store) : Store where
  entries := s.entries.reverse
  ids_nodup := by
    rw [List.map_reverse, List.nodup_reverse]
    exact s.ids_nodup

/-- Two workspaces as old as each other are listed by their ids, whichever came first. -/
theorem two_as_old_as_each_other_are_listed_by_id :
    (empty.after Sample.calls).Keyed ∧
      (Sample.turned (empty.after Sample.calls)).list (-1) 1 =
        (empty.after Sample.calls).list (-1) 1 ∧
      ((empty.after Sample.calls).list (-1) 1).map (·.id) = [⟨1⟩] := by
  have hkeyed : (empty.after Sample.calls).Keyed := by
    unfold Keyed
    decide +kernel
  obtain ⟨order, _, _, hpages⟩ := every_page_is_a_part_of_the_one_order _ hkeyed
  refine ⟨hkeyed, ?_, by decide +kernel⟩
  have hperm : (Sample.turned (empty.after Sample.calls)).entries.Perm
      (empty.after Sample.calls).entries := List.reverse_perm _
  have hturned := (hpages _ hperm (-1) 1).1
  have hstraight := (hpages _ (List.Perm.refl _) (-1) 1).1
  rw [hstraight]
  exact hturned

end Workspaces.Store
