-- A page and its total come of two calls, and others may call the store in between. So the page is
-- one of the store as it was listed, the total is that of the store as it was counted, and what was
-- added and removed meanwhile is all that they differ by.
import Workspaces.Proofs.Listing.Arithmetic
import Workspaces.Proofs.Service.Results
import Workspaces.Proofs.Store.Listing
import Workspaces.Proofs.Store.Uniqueness

namespace Workspaces

/-! ## Dialogues that are interrupted -/

namespace Dialogue

variable {α : Type}

/-- The answer of a dialogue, and the store after it, if the store carries out other calls before
each call of the dialogue: first those that come first in the list, then those that come next. -/
def runAmid : Dialogue α → List (List StoreCall) → Store → α × Store
  | answer a, _, s => (a, s)
  | call c next, others, s =>
    let (reply, s) := c.run (s.after (others.headD []))
    (next reply).runAmid others.tail s

/-- A dialogue that nobody interrupts is held with the store alone. -/
theorem runAmid_nil (d : Dialogue α) (s : Store) : d.runAmid [] s = d.run Outage.none s := by
  induction d generalizing s with
  | answer a => rfl
  | call c next ih =>
    rw [run_call, StoreCall.runUnder_none]
    exact ih _ _

end Dialogue

/-! ## What becomes of the number of workspaces -/

namespace StoreCall

/-- Whether a call adds a workspace: one whose name is free, under an id that is not there. -/
def adds (s : Store) : StoreCall → Bool
  | insert w => !s.nameTaken w.name none && !s.contains w.id
  | find _ | list .. | count | update .. | delete _ | ping => false

/-- Whether a call removes a workspace. -/
def removes (s : Store) : StoreCall → Bool
  | delete id => s.contains id
  | insert _ | find _ | list .. | count | update .. | ping => false

/-- What an insertion adds. -/
theorem count_insert (s : Store) (w : Workspace) :
    ((insert w).run s).2.count = s.count + (adds s (insert w)).toNat := by
  unfold adds
  by_cases htaken : s.nameTaken w.name none = true
  · rw [run_insert_taken s w htaken]
    simp [htaken]
  · have hfree : s.nameTaken w.name none = false := by simpa using htaken
    rw [run_insert_free s w hfree]
    cases hfind : s.find? w.id with
    | none =>
      rw [s.count_put w hfind]
      simp [hfree, hfind]
    | some v =>
      rw [s.count_put_of_found w v hfind]
      simp [hfind]

/-- Whatever a change comes to, there are as many workspaces as before. -/
theorem count_update (s : Store) (id : Uuid) (changes : Changes) :
    ((update id changes).run s).2.count = s.count := by
  cases hfind : s.find? id with
  | none => rw [run_update_absent s id changes hfind]
  | some w =>
    by_cases htaken : clashes s id changes = true
    · rw [run_update_taken s w id changes hfind htaken]
    · rw [run_update_free s w id changes hfind (by simpa using htaken)]
      exact s.count_modify id changes.apply

/-- What a deletion removes. -/
theorem count_delete (s : Store) (id : Uuid) :
    ((delete id).run s).2.count + (removes s (delete id)).toNat = s.count := by
  unfold removes
  rw [run_delete]
  cases hfind : s.find? id with
  | none =>
    simp only [s.erase_of_absent id hfind]
    simp [hfind]
  | some w =>
    rw [← s.count_erase w id hfind]
    simp [hfind]

/-- One call adds a workspace, removes one, or leaves as many as there were. -/
theorem count_run (s : Store) (c : StoreCall) :
    (c.run s).2.count + (c.removes s).toNat = s.count + (c.adds s).toNat := by
  cases c with
  | insert w => exact count_insert s w
  | update id changes => exact count_update s id changes
  | delete id => exact count_delete s id
  | find | list | count | ping => rfl

end StoreCall

namespace Store

/-- How many workspaces calls add, one after another. -/
def added (s : Store) : List StoreCall → Nat
  | [] => 0
  | c :: cs => (c.adds s).toNat + (c.run s).2.added cs

/-- How many workspaces calls remove, one after another. -/
def removed (s : Store) : List StoreCall → Nat
  | [] => 0
  | c :: cs => (c.removes s).toNat + (c.run s).2.removed cs

/-- The stores from one before calls to the one after them all. -/
def through (s : Store) : List StoreCall → List Store
  | [] => [s]
  | c :: cs => s :: (c.run s).2.through cs

theorem self_mem_through (s : Store) (calls : List StoreCall) : s ∈ s.through calls := by
  cases calls with
  | nil => exact List.mem_singleton_self s
  | cons c cs => exact List.mem_cons_self

theorem after_mem_through (s : Store) (calls : List StoreCall) :
    s.after calls ∈ s.through calls := by
  induction calls generalizing s with
  | nil => exact List.mem_singleton_self s
  | cons c cs ih => exact List.mem_cons_of_mem s (ih _)

/-- Nothing else is gained or lost on the way. -/
theorem count_after (s : Store) (calls : List StoreCall) :
    (s.after calls).count + s.removed calls = s.count + s.added calls := by
  induction calls generalizing s with
  | nil => rfl
  | cons c cs ih =>
    have hstep := StoreCall.count_run s c
    have hrest := ih (c.run s).2
    unfold after removed added
    omega

/-- A page that shows something ends within the workspaces of its store. -/
theorem page_within_count (s : Store) (skip limit : Int) (hskip : 0 ≤ skip)
    (h : s.list skip limit ≠ []) : skip + (s.list skip limit).length ≤ s.count := by
  have hsome : 0 < (s.list skip limit).length := List.length_pos_iff.2 h
  have hlength : (s.list skip limit).length = min limit.toNat (s.count - skip.toNat) := by
    unfold list
    rw [List.length_take, List.length_drop, length_listing]
  omega

end Store

/-! ## Pages -/

namespace Window

/-- A window is given if nothing negative is to be skipped and something is to be shown. -/
theorem ofRequest_of_valid (skip limit : Option Int) (hskip : 0 ≤ skip.getD 0)
    (hlimit : 1 ≤ limit.getD maxLimit) :
    ofRequest skip limit = .ok ⟨skip.getD 0, min (limit.getD maxLimit) maxLimit⟩ := by
  unfold ofRequest
  simp only
  rw [if_neg (by omega), if_neg (by omega)]

end Window

namespace Service

/-- A page that others come in between of is listed from the store before they came, and counted in
the store after them. -/
theorem runAmid_list (s : Store) (skip limit : Option Int) (w : Window) (between : List StoreCall)
    (h : Window.ofRequest skip limit = .ok w) :
    (list skip limit).runAmid [[], between] s =
      (.ok ⟨s.list w.skip w.limit, w, (s.after between).count⟩, s.after between) := by
  unfold list
  rw [h]
  rfl

/-- Whatever others ask of the store between the two calls for a page, its items are those of the
store when it was listed, and its total is the number of workspaces when it was counted, which is the
number when it was listed with those added that were added and those taken away that were removed. If
these are as many, or if the window still shows the same in the end, then one store on the way had
both the items and the total. Items that there are stand within the total but for what was added and
removed. -/
theorem a_page_is_of_one_moment_and_its_total_of_a_later_one (s : Store) (skip limit : Option Int)
    (between : List StoreCall) (hskip : 0 ≤ skip.getD 0) (hlimit : 1 ≤ limit.getD 100) :
    ∃ page, (list skip limit).runAmid [[], between] s = (.ok page, s.after between) ∧
      page.window = ⟨skip.getD 0, min (limit.getD 100) 100⟩ ∧
      page.items = s.list page.window.skip page.window.limit ∧
      page.total = (s.after between).count ∧
      page.total + s.removed between = s.count + s.added between ∧
      (s.added between = s.removed between ∨
          (s.after between).list page.window.skip page.window.limit = page.items →
        ∃ t ∈ s.through between,
          page.items = t.list page.window.skip page.window.limit ∧ page.total = t.count) ∧
      (page.items ≠ [] →
        page.window.skip + page.items.length + s.added between ≤
          page.total + s.removed between) := by
  have hwindow := Window.ofRequest_of_valid skip limit hskip hlimit
  have hcount := s.count_after between
  refine ⟨_, runAmid_list s skip limit _ between hwindow, rfl, rfl, rfl, ?_, ?_, ?_⟩
  · simp only
    omega
  · rintro (hsame | hpage)
    · refine ⟨s, s.self_mem_through between, rfl, ?_⟩
      simp only
      omega
    · exact ⟨s.after between, s.after_mem_through between, hpage.symm, rfl⟩
  · intro hsome
    simp only at hsome ⊢
    have hwithin := s.page_within_count _ _ hskip hsome
    omega

/-- One workspace. -/
def Sample.store : Store := Store.empty.put { Workspace.blank with id := ⟨1⟩, name := "one" }

/-- The workspace is removed and another one is added, so the total is that of the page. -/
theorem a_page_fits_its_total_after_as_many_were_added_as_removed :
    ∃ page, (list (some 0) none).runAmid
        [[], [.delete ⟨1⟩, .insert { Workspace.blank with id := ⟨2⟩, name := "two" }]]
        Sample.store =
          (.ok page, Sample.store.after
            [.delete ⟨1⟩, .insert { Workspace.blank with id := ⟨2⟩, name := "two" }]) ∧
      page.items.map (·.id) = [⟨1⟩] ∧ page.total = 1 := by
  obtain ⟨page, hrun, hwindow, hitems, htotal, _⟩ :=
    a_page_is_of_one_moment_and_its_total_of_a_later_one Sample.store (some 0) none
      [.delete ⟨1⟩, .insert { Workspace.blank with id := ⟨2⟩, name := "two" }] (by simp) (by simp)
  refine ⟨page, hrun, ?_, ?_⟩
  · rw [hitems, hwindow]
    decide +kernel
  · rw [htotal]
    decide +kernel

/-- If the one workspace of a store is removed after it was listed, the page shows it and its total
is none, and no store on the way had both. -/
theorem a_page_can_show_more_than_its_total :
    ∃ page, ((list (some 0) (some 100)).runAmid [[], [.delete ⟨1⟩]] Sample.store).1 = .ok page ∧
      page.items.map (·.id) = [⟨1⟩] ∧ page.total = 0 ∧
      ∀ t ∈ Sample.store.through [.delete ⟨1⟩],
        ¬ (page.items = t.list page.window.skip page.window.limit ∧ page.total = t.count) := by
  refine ⟨⟨Sample.store.list 0 100, ⟨0, 100⟩, 0⟩, by decide +kernel, by decide +kernel, rfl, ?_⟩
  decide +kernel

end Service

end Workspaces
