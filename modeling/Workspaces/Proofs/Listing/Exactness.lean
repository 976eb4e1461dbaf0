-- What is told of a window is exact wherever there is arithmetic for it: how many pages there are,
-- which of them the window is, and whether one follows or comes before. Two sums are all that can
-- be out of reach.
import Mathlib.Order.Bounds.Defs
import Workspaces.Proofs.Listing.Arithmetic

namespace Workspaces.Paging

variable (skip limit total : Int)

/-! ## Division -/

/-- As often as `limit` fits into `skip`, and no more often. -/
theorem ediv_isGreatest (hlimit : 1 ≤ limit) :
    IsGreatest {n : Int | n * limit ≤ skip} (skip / limit) := by
  constructor
  · exact Int.ediv_mul_le skip (by omega)
  · intro n hn
    exact (Int.le_ediv_iff_mul_le (by omega)).2 hn

/-- Division that is rounded up gives no more pages than it takes. -/
theorem roundUp_le_iff (hlimit : 1 ≤ limit) (n : Int) :
    (total + limit - 1) / limit ≤ n ↔ total ≤ n * limit := by
  have hstrict : (total + limit - 1) / limit < n + 1 ↔ total + limit - 1 < (n + 1) * limit :=
    Int.ediv_lt_iff_lt_mul (by omega)
  have hnext : (n + 1) * limit = n * limit + limit := by rw [Int.add_mul, Int.one_mul]
  rw [← Int.lt_add_one_iff, hstrict, hnext]
  omega

theorem roundUp_isLeast (hlimit : 1 ≤ limit) :
    IsLeast {n : Int | total ≤ n * limit} ((total + limit - 1) / limit) := by
  constructor
  · exact (roundUp_le_iff limit total hlimit _).1 (Int.le_refl _)
  · intro n hn
    exact (roundUp_le_iff limit total hlimit n).2 hn

/-! ## What is told -/

/-- What is told of a window that shows at most `limit` of `total` workspaces behind the first
`skip`. -/
structure Places (p : Paging) : Prop where
  window : p.skip = skip ∧ p.limit = limit
  totalPages : IsLeast {n : Int | total ≤ n * limit} p.totalPages
  page : IsGreatest {n : Int | n * limit ≤ skip} (p.page - 1)
  hasNext : p.hasNext = true ↔ ∃ i, skip + limit ≤ i ∧ i < total
  /-- A window that begins within the workspaces is one of their pages. -/
  inside : skip < total → 1 ≤ p.page ∧ p.page ≤ p.totalPages
  /-- A window that begins where a page does has the neighbours of the page. -/
  aligned : limit ∣ skip →
    (p.hasNext = true ↔ p.page < p.totalPages) ∧ (p.hasPrevious = true ↔ 1 < p.page)

/-- Counted without a bound, all of it is so. -/
theorem exact_places (hskip : 0 ≤ skip) (hlimit : 1 ≤ limit) :
    (exact skip limit total).Places skip limit total := by
  have hwhole := ediv_isGreatest skip limit hlimit
  have hpages := roundUp_le_iff limit total hlimit
  have hfirst : 0 ≤ skip / limit := Int.ediv_nonneg hskip (by omega)
  have hbefore : skip / limit * limit ≤ skip := hwhole.1
  have hnext : (skip / limit + 1) * limit = skip / limit * limit + limit := by
    rw [Int.add_mul, Int.one_mul]
  refine ⟨⟨rfl, rfl⟩, roundUp_isLeast limit total hlimit, ?_, ?_, fun hinside => ?_,
    fun haligned => ?_⟩
  · have hpage : (exact skip limit total).page - 1 = skip / limit := Int.add_sub_cancel _ 1
    rw [hpage]
    exact hwhole
  · change decide (skip + limit < total) = true ↔ _
    rw [decide_eq_true_eq]
    exact ⟨fun h => ⟨skip + limit, Int.le_refl _, h⟩, fun ⟨i, hi, hlt⟩ => Int.lt_of_le_of_lt hi hlt⟩
  · -- The pages before this one end at `skip` or before it, so they are not all.
    have hmore := hpages (skip / limit)
    change 1 ≤ skip / limit + 1 ∧ skip / limit + 1 ≤ (total + limit - 1) / limit
    omega
  · have hback : skip / limit * limit = skip := Int.ediv_mul_cancel haligned
    constructor
    · have hlast := hpages (skip / limit + 1)
      change decide (skip + limit < total) = true ↔ skip / limit + 1 < (total + limit - 1) / limit
      rw [decide_eq_true_eq]
      omega
    · have hsome : 1 ≤ skip / limit ↔ 1 * limit ≤ skip := Int.le_ediv_iff_mul_le (by omega)
      have hfull : 0 < skip → limit ≤ skip := fun h => Int.le_of_dvd h haligned
      change decide (0 < skip) = true ↔ 1 < skip / limit + 1
      rw [decide_eq_true_eq]
      omega

/-! ## Whether it is told -/

/-- The end of the window is beyond the integers of 64 bits, or, if there are any workspaces, their
number with the limit added to it is. -/
def Overruns : Prop := 2 ^ 63 ≤ skip + limit ∨ (0 < total ∧ 2 ^ 63 ≤ total + limit)

theorem pagesFor_of_overflow (htotal : 0 < total) (h : 2 ^ 63 ≤ total + limit) :
    pagesFor limit total = .error .addOverflow := by
  unfold pagesFor
  rw [if_neg (by omega), Int64Arithmetic.add_of_overflow total limit h]
  rfl

/-- The place of a window among workspaces, all counted in integers of 64 bits, is told if and only
if neither sum is out of reach, and what is told is exact. -/
theorem a_window_is_placed_exactly_unless_it_overruns (hskip : 0 ≤ skip) (hmax : skip < 2 ^ 63)
    (hlimit : 1 ≤ limit) (htotal : 0 ≤ total) :
    (Overruns skip limit total → ofWindow skip limit total = .error .addOverflow) ∧
    (¬ Overruns skip limit total →
      ∃ p, ofWindow skip limit total = .ok p ∧ p.Places skip limit total) := by
  unfold Overruns
  by_cases hpages : 0 < total ∧ 2 ^ 63 ≤ total + limit
  · refine ⟨fun _ => ?_, fun h => absurd (.inr hpages) h⟩
    unfold ofWindow
    rw [pagesFor_of_overflow limit total hpages.1 hpages.2]
    rfl
  · have heq := ofWindow_eq skip limit total hskip hmax hlimit htotal (by omega)
    rw [heq]
    constructor
    · rintro (hstop | h)
      · exact if_neg (by omega)
      · exact absurd h hpages
    · intro h
      rw [if_pos (by omega)]
      exact ⟨_, rfl, exact_places skip limit total hskip hlimit⟩

/-- The last window of seven that there is arithmetic for, among as many workspaces as it skips. One
workspace more is out of reach. -/
theorem the_farthest_window_is_placed :
    (∃ p, ofWindow (2 ^ 63 - 8) 7 (2 ^ 63 - 8) = .ok p ∧
      p.Places (2 ^ 63 - 8) 7 (2 ^ 63 - 8) ∧ p.hasNext = false ∧
      IsLeast {n : Int | 2 ^ 63 - 8 ≤ n * 7} 1317624576693539400) ∧
    ofWindow (2 ^ 63 - 8) 7 (2 ^ 63 - 7) = .error .addOverflow := by
  obtain ⟨_, hplaced⟩ := a_window_is_placed_exactly_unless_it_overruns (2 ^ 63 - 8) 7 (2 ^ 63 - 8)
    (by decide) (by decide) (by decide) (by decide)
  obtain ⟨hover, _⟩ := a_window_is_placed_exactly_unless_it_overruns (2 ^ 63 - 8) 7 (2 ^ 63 - 7)
    (by decide) (by decide) (by decide) (by decide)
  have hfits : ¬ Overruns (2 ^ 63 - 8) 7 (2 ^ 63 - 8) := by
    unfold Overruns
    decide
  obtain ⟨p, hp, hplaces⟩ := hplaced hfits
  have htold : ofWindow (2 ^ 63 - 8) 7 (2 ^ 63 - 8) =
      .ok ⟨2 ^ 63 - 8, 7, 1317624576693539401, 1317624576693539400, false, true⟩ := by
    rfl
  rw [htold] at hp
  obtain rfl := Except.ok.inj hp
  refine ⟨⟨_, htold, hplaces, rfl, hplaces.totalPages⟩, hover ?_⟩
  unfold Overruns
  decide

end Workspaces.Paging
