-- How writes move the listing. It is sorted anew whenever it is asked for, out of entries in no
-- order that matters, and yet a write adds, replaces or removes one workspace in it and leaves the
-- others in their places.
import Workspaces.Proofs.Except
import Workspaces.Proofs.Service.Reach
import Workspaces.Proofs.Store.CanonicalOrder

namespace Workspaces

namespace Store

variable {s : Store}

/-! ## Listings of orderly stores -/

theorem Orderly.mem_listing_iff (hs : s.Orderly) (w : Workspace) :
    w ∈ s.listing ↔ s.find? w.id = some w := by
  rw [hs.keyed_entries.enumerates_listing.all w]
  constructor
  · rintro ⟨id, hentry⟩
    have hfind := (s.find?_eq_some_iff w id).2 hentry
    rwa [hs.keyed id w hfind]
  · intro hfind
    exact ⟨w.id, (s.find?_eq_some_iff w w.id).1 hfind⟩

/-- A sorted list without repetition of all that is there is the listing. -/
theorem Orderly.listing_eq (hs : s.Orderly) {ws : List Workspace} (hsorted : ws.Pairwise Precedes)
    (honce : ws.Nodup) (hall : ∀ w, w ∈ ws ↔ s.find? w.id = some w) : s.listing = ws := by
  refine hs.keyed_entries.enumerates_unique hs.keyed_entries.enumerates_listing
    ⟨honce, fun w => ?_, hsorted⟩
  rw [hall, ← hs.mem_listing_iff]
  exact hs.keyed_entries.enumerates_listing.all w

theorem Orderly.listing_nodup (hs : s.Orderly) : s.listing.Nodup :=
  hs.keyed_entries.enumerates_listing.once

/-- No id is listed twice. -/
theorem Orderly.listing_ids_nodup (hs : s.Orderly) : (s.listing.map (·.id)).Nodup := by
  refine hs.listing_nodup.map_on fun v hv w hw hid => ?_
  rw [hs.mem_listing_iff] at hv hw
  rw [hid, hw] at hv
  exact (Option.some.inj hv).symm

/-- What is there stands at one place of the listing. -/
theorem Orderly.listing_split (hs : s.Orderly) {id : Uuid} {w : Workspace}
    (hfind : s.find? id = some w) : ∃ front behind, s.listing = front ++ w :: behind ∧
      (∀ v ∈ front, v.id ≠ id) ∧ ∀ v ∈ behind, v.id ≠ id := by
  have hid := hs.keyed id w hfind
  have hmem : w ∈ s.listing := (hs.mem_listing_iff w).2 (by rwa [hid])
  obtain ⟨front, behind, hsplit⟩ := List.append_of_mem hmem
  have hids := hs.listing_ids_nodup
  rw [hsplit, List.map_append, List.map_cons, hid, List.nodup_middle, List.nodup_cons] at hids
  have hother : ∀ v ∈ front ++ behind, v.id ≠ id := by
    intro v hv hsame
    exact hids.1 (by rw [← List.map_append, ← hsame]; exact List.mem_map_of_mem hv)
  exact ⟨front, behind, hsplit, fun v hv => hother v (List.mem_append_left _ hv),
    fun v hv => hother v (List.mem_append_right _ hv)⟩

/-- What is not there is not listed. -/
theorem Orderly.filter_listing_of_absent (hs : s.Orderly) {id : Uuid} (h : s.find? id = none) :
    s.listing.filter (·.id ≠ id) = s.listing := by
  rw [List.filter_eq_self]
  intro v hv
  rw [hs.mem_listing_iff] at hv
  apply decide_eq_true
  rintro rfl
  rw [h] at hv
  cases hv

/-! ## After a write -/

/-- What is newer than all that is there is listed in front of it, without what it replaces. -/
theorem Orderly.listing_put (hs : s.Orderly) {w : Workspace} (hput : (s.put w).Orderly)
    (hnewest : ∀ v ∈ s.listing, v.createdAt < w.createdAt) :
    (s.put w).listing = w :: s.listing.filter (·.id ≠ w.id) := by
  refine hput.listing_eq ?_ ?_ fun v => ?_
  · refine List.pairwise_cons.2 ⟨fun v hv => .inl ?_, s.listing_sorted.filter _⟩
    exact hnewest v (List.mem_of_mem_filter hv)
  · refine List.nodup_cons.2 ⟨fun hw => ?_, hs.listing_nodup.filter _⟩
    simpa using List.of_mem_filter hw
  · rw [List.mem_cons, List.mem_filter, hs.mem_listing_iff, find?_put]
    by_cases hid : v.id = w.id
    · simp [hid, eq_comm]
    · have hne : v ≠ w := fun h => hid (congrArg Workspace.id h)
      simp [hid, hne]

/-- What is removed leaves a gap, which closes. -/
theorem Orderly.listing_erase (hs : s.Orderly) (id : Uuid) :
    (s.erase id).listing = s.listing.filter (·.id ≠ id) := by
  refine (hs.erase id).listing_eq (s.listing_sorted.filter _) (hs.listing_nodup.filter _)
    fun v => ?_
  rw [List.mem_filter, hs.mem_listing_iff, find?_erase]
  by_cases hid : v.id = id <;> simp [hid]

/-- What keeps its id and the time of its creation keeps its place. -/
theorem Orderly.listing_modify (hs : s.Orderly) (id : Uuid) {f : Workspace → Workspace}
    (hmodify : (s.modify id f).Orderly) (hf : ∀ v, (f v).id = v.id)
    (htime : ∀ v, (f v).createdAt = v.createdAt) :
    (s.modify id f).listing = s.listing.map fun v => if v.id = id then f v else v := by
  have hkeeps : ∀ v : Workspace, (if v.id = id then f v else v).id = v.id ∧
      (if v.id = id then f v else v).createdAt = v.createdAt := by
    intro v
    split
    · exact ⟨hf v, htime v⟩
    · exact ⟨rfl, rfl⟩
  refine hmodify.listing_eq ?_ ?_ fun w => ?_
  · refine List.pairwise_map.2 (s.listing_sorted.imp fun {u v} huv => ?_)
    unfold Precedes
    rw [(hkeeps u).1, (hkeeps u).2, (hkeeps v).1, (hkeeps v).2]
    exact huv
  · refine List.Nodup.of_map (·.id) ?_
    have hids : (s.listing.map fun v => if v.id = id then f v else v).map (·.id) =
        s.listing.map (·.id) := by
      rw [List.map_map]
      exact List.map_congr_left fun v _ => (hkeeps v).1
    rw [hids]
    exact hs.listing_ids_nodup
  · rw [List.mem_map, find?_modify]
    constructor
    · rintro ⟨v, hv, rfl⟩
      have hfind := (hs.mem_listing_iff v).1 hv
      rw [(hkeeps v).1, hfind]
      by_cases hid : v.id = id <;> simp [hid]
    · intro hfind
      split at hfind
      · rename_i hid
        obtain ⟨v, hv, hw⟩ := Option.map_eq_some_iff.1 hfind
        have hvid := hs.keyed w.id v hv
        refine ⟨v, (hs.mem_listing_iff v).2 (by rwa [hvid]), ?_⟩
        rw [if_pos (hvid.trans hid), hw]
      · rename_i hid
        exact ⟨w, (hs.mem_listing_iff w).2 hfind, if_neg hid⟩

/-- What is there stands between those that are listed before it and those behind it. They close up
when it is removed, and stay where they are when it is changed. -/
theorem Orderly.listing_places (hs : s.Orderly) {id : Uuid} {w : Workspace}
    (hfind : s.find? id = some w) : ∃ front behind, s.listing = front ++ w :: behind ∧
      (s.erase id).listing = front ++ behind ∧
      ∀ f : Workspace → Workspace, (s.modify id f).Orderly → (∀ v, (f v).id = v.id) →
        (∀ v, (f v).createdAt = v.createdAt) →
          (s.modify id f).listing = front ++ f w :: behind := by
  obtain ⟨front, behind, hsplit, hfront, hbehind⟩ := hs.listing_split hfind
  have hid := hs.keyed id w hfind
  have hstay : ∀ {vs : List Workspace}, (∀ v ∈ vs, v.id ≠ id) →
      vs.filter (·.id ≠ id) = vs ∧
      ∀ f : Workspace → Workspace, (vs.map fun v => if v.id = id then f v else v) = vs := by
    intro vs hvs
    refine ⟨List.filter_eq_self.2 fun v hv => decide_eq_true (hvs v hv), fun f => ?_⟩
    rw [List.map_congr_left fun v hv => if_neg (hvs v hv), List.map_id']
  refine ⟨front, behind, hsplit, ?_, fun f hmodify hf htime => ?_⟩
  · rw [hs.listing_erase, hsplit, List.filter_append, List.filter_cons_of_neg (by simp [hid]),
      (hstay hfront).1, (hstay hbehind).1]
  · rw [hs.listing_modify id hmodify hf htime, hsplit, List.map_append, List.map_cons,
      (hstay hfront).2 f, (hstay hbehind).2 f, if_pos hid]

/-- Where the same ids are listed, every page shows the same. -/
theorem list_ids_eq {s' : Store} (h : s'.listing.map (·.id) = s.listing.map (·.id))
    (offset limit : Int) :
    (s'.list offset limit).map (·.id) = (s.list offset limit).map (·.id) := by
  unfold list
  rw [List.map_take, List.map_drop, h, ← List.map_drop, ← List.map_take]

end Store

/-! ## Requests of the service -/

namespace Service

variable {s : Store} {outage : Outage}

theorem create_places (hs : Reached s) {o : Occasion} {d : Draft} {w : Workspace} {s' : Store}
    (hdone : (create o d).run outage s = (.ok w, s'))
    (hnewest : ∀ v ∈ s.listing, v.createdAt < o.now) :
    w.id = o.freshId ∧ s'.listing = w :: s.listing.filter (·.id ≠ o.freshId) := by
  have hafter := (hs.create outage o d).orderly
  rcases create_result outage s o d with ⟨fault, hrun⟩ | ⟨_, _, hrun⟩
  · rw [hrun] at hdone
    cases hdone
  · rw [hrun] at hdone hafter
    cases hdone
    exact ⟨rfl, hs.orderly.listing_put hafter hnewest⟩

theorem update_places (hs : Reached s) {now : Instant} {id : Uuid} {r : Revision} {w : Workspace}
    {s' : Store} (hdone : (update now id r).run outage s = (.ok w, s')) :
    ∃ front v behind, s.listing = front ++ v :: behind ∧ v.id = id ∧ w.id = id ∧
      s'.listing = front ++ w :: behind := by
  have hafter := (hs.update outage now id r).orderly
  rcases update_result outage s now id r with ⟨fault, hrun⟩ | ⟨v, hfind, _, ⟨_, hrun⟩ | ⟨_, hrun⟩⟩
  · rw [hrun] at hdone
    cases hdone
  · rw [hrun] at hdone
    cases hdone
    obtain ⟨front, behind, hsplit, _⟩ := hs.orderly.listing_places hfind
    have hid := hs.orderly.keyed id w hfind
    exact ⟨front, w, behind, hsplit, hid, hid, hsplit⟩
  · rw [hrun] at hdone hafter
    cases hdone
    obtain ⟨front, behind, hsplit, _, hplaces⟩ := hs.orderly.listing_places hfind
    have hid := hs.orderly.keyed id v hfind
    exact ⟨front, v, behind, hsplit, hid, hid, hplaces _ hafter (fun _ => rfl) fun _ => rfl⟩

theorem delete_places (hs : Reached s) {id : Uuid} {s' : Store}
    (hdone : (delete id).run outage s = (.ok (), s')) :
    ∃ front w behind, s.listing = front ++ w :: behind ∧ w.id = id ∧
      s'.listing = front ++ behind := by
  rcases delete_result outage s id with ⟨fault, hrun⟩ | ⟨w, hfind, hrun⟩
  · rw [hrun] at hdone
    cases hdone
  · rw [hrun] at hdone
    cases hdone
    obtain ⟨front, behind, hsplit, hgap, _⟩ := hs.orderly.listing_places hfind
    exact ⟨front, w, behind, hsplit, hs.orderly.keyed id w hfind, hgap⟩

/-! ## The law -/

/-- In every store that the service reaches no id is listed twice, and whichever calls of the store
fail: a workspace that is created later than all that are there is listed in front of them, and they
stay if none of them had its id; one that is revised stays at its place, so every page shows the
same ids in the same order; and one that is deleted is taken out from between those before and
behind it. -/
theorem a_write_touches_one_place_of_the_listing (s : Store) (hs : Reached s)
    (outage : Outage) :
    (s.listing.map (·.id)).Nodup ∧
    (∀ o d w s', (create o d).run outage s = (.ok w, s') →
      (∀ v ∈ s.listing, v.createdAt < o.now) →
        w.id = o.freshId ∧ s'.listing = w :: s.listing.filter (·.id ≠ o.freshId) ∧
        (s.find? o.freshId = none → s'.listing = w :: s.listing)) ∧
    (∀ now id r w s', (update now id r).run outage s = (.ok w, s') →
      ∃ front v behind, s.listing = front ++ v :: behind ∧ v.id = id ∧ w.id = id ∧
        s'.listing = front ++ w :: behind ∧
        ∀ offset limit, (s'.list offset limit).map (·.id) = (s.list offset limit).map (·.id)) ∧
    ∀ id s', (delete id).run outage s = (.ok (), s') →
      ∃ front w behind, s.listing = front ++ w :: behind ∧ w.id = id ∧
        s'.listing = front ++ behind := by
  refine ⟨hs.orderly.listing_ids_nodup, ?_, ?_, fun id s' => delete_places hs⟩
  · intro o d w s' hdone hnewest
    obtain ⟨hid, hlisting⟩ := create_places hs hdone hnewest
    refine ⟨hid, hlisting, fun hfresh => ?_⟩
    rw [hlisting, hs.orderly.filter_listing_of_absent hfresh]
  · intro now id r w s' hdone
    obtain ⟨front, v, behind, hsplit, hv, hw, hplaced⟩ := update_places hs hdone
    refine ⟨front, v, behind, hsplit, hv, hw, hplaced, Store.list_ids_eq ?_⟩
    rw [hplaced, hsplit, List.map_append, List.map_append, List.map_cons, List.map_cons, hv, hw]

namespace Sample

def plain : Draft := ⟨"zero", none, none, none, none⟩

/-- A third workspace is created, under the lowest of ids. -/
def grown : Except Fault Workspace × Store :=
  (create ⟨time 3, ⟨0⟩⟩ plain).run Outage.none kept

def paint : Revision := ⟨none, .keep, .keep, .write "red", none⟩

/-- The first of two that are as old as each other takes a color. -/
def painted : Except Fault Workspace × Store := (update (time 3) ⟨1⟩ paint).run Outage.none kept

/-- The first of the two is deleted. -/
def thinned : Except Fault Unit × Store := (delete ⟨1⟩).run Outage.none kept

end Sample

theorem a_twin_keeps_its_place_until_it_is_deleted :
    Reached Sample.kept ∧
    (∃ w, Sample.grown.1 = .ok w ∧ Sample.grown.2.listing = w :: Sample.kept.listing) ∧
    (∃ w front v behind, Sample.painted.1 = .ok w ∧ v.id = ⟨1⟩ ∧
      Sample.kept.listing = front ++ v :: behind ∧
      Sample.painted.2.listing = front ++ w :: behind) ∧
    ∃ front w behind, w.id = ⟨1⟩ ∧ Sample.kept.listing = front ++ w :: behind ∧
      Sample.thinned.2.listing = front ++ behind := by
  obtain ⟨_, hcreate, hupdate, hdelete⟩ := a_write_touches_one_place_of_the_listing Sample.kept
    Sample.reached_kept Outage.none
  have hnewest : ∀ v ∈ Sample.kept.listing, v.createdAt < Sample.time 3 := by decide +kernel
  have hcreated : Sample.grown.1.toOption.isSome = true := by decide +kernel
  have hrevised : Sample.painted.1.toOption.isSome = true := by decide +kernel
  have hdeleted : Sample.thinned.1 = .ok () := by decide +kernel
  obtain ⟨w, hw⟩ := Option.isSome_iff_exists.1 hcreated
  obtain ⟨v, hv⟩ := Option.isSome_iff_exists.1 hrevised
  obtain ⟨_, _, hlisting⟩ := hcreate ⟨Sample.time 3, ⟨0⟩⟩ Sample.plain w Sample.grown.2
    (Prod.ext (ok_of_toOption hw) rfl) hnewest
  obtain ⟨front, u, behind, hsplit, hu, _, hplaced, _⟩ := hupdate (Sample.time 3) ⟨1⟩ Sample.paint v
    Sample.painted.2 (Prod.ext (ok_of_toOption hv) rfl)
  obtain ⟨front', u', behind', hsplit', hu', hgap⟩ := hdelete ⟨1⟩ Sample.thinned.2
    (Prod.ext hdeleted rfl)
  exact ⟨Sample.reached_kept, ⟨w, ok_of_toOption hw, hlisting (by decide +kernel)⟩,
    ⟨v, front, u, behind, ok_of_toOption hv, hu, hsplit, hplaced⟩,
    front', u', behind', hu', hsplit', hgap⟩

end Service

end Workspaces
