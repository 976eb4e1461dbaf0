-- The arithmetic of paging: which numbers a query can bring into it, and when it leaves the
-- integers of 64 bits. Every intermediate result but two sums is within them.
import Mathlib.Algebra.Group.Int.Defs
import Mathlib.Algebra.Group.Nat.Defs
import Mathlib.Tactic.SplitIfs
import Workspaces.Http.Extract
import Workspaces.Listing.Paging
import Workspaces.Listing.Window
import Workspaces.Proofs.Except
import Workspaces.Proofs.Text.Numeral

namespace Workspaces

/-! ## Operations -/

namespace Int64Arithmetic

variable (a b : Int)

theorem fits_iff (n : Int) : fits n = true ↔ -2 ^ 63 ≤ n ∧ n < 2 ^ 63 := by
  unfold fits IntegerRange.contains IntegerRange.signed
  rw [Bool.and_eq_true, decide_eq_true_eq, decide_eq_true_eq]
  simp only [show (1 <<< (64 - 1) : Nat) = 2 ^ 63 from rfl]
  omega

theorem add_of_fits (h : -2 ^ 63 ≤ a + b ∧ a + b < 2 ^ 63) : add a b = .ok (a + b) := by
  unfold add
  rw [if_pos ((fits_iff _).2 h)]

theorem add_of_overflow (h : 2 ^ 63 ≤ a + b) : add a b = .error .addOverflow := by
  unfold add
  rw [if_neg]
  rw [fits_iff]
  omega

theorem subtract_of_fits (h : -2 ^ 63 ≤ a - b ∧ a - b < 2 ^ 63) :
    subtract a b = .ok (a - b) := by
  unfold subtract
  rw [if_pos ((fits_iff _).2 h)]

/-- To divide a number that is not negative by a positive one is always possible. -/
theorem divide_of_nonneg (ha : 0 ≤ a) (hmax : a < 2 ^ 63) (hb : 1 ≤ b) :
    divide a b = .ok (a / b) := by
  have hle : a / b ≤ a := Int.ediv_le_self b ha
  have hpos : 0 ≤ a / b := Int.ediv_nonneg ha (by omega)
  unfold divide
  rw [if_neg (by omega), Int.tdiv_eq_ediv_of_nonneg ha, if_pos]
  rw [fits_iff]
  omega

end Int64Arithmetic

/-! ## Paging -/

namespace Paging

open Int64Arithmetic

variable (skip limit total : Int)

theorem pagesFor_of_fits (hlimit : 1 ≤ limit) (htotal : 0 ≤ total)
    (h : total + limit < 2 ^ 63 ∨ total = 0) :
    pagesFor limit total = .ok ((total + limit - 1) / limit) := by
  unfold pagesFor
  by_cases hzero : total = 0
  · have hnone : (total + limit - 1) / limit = 0 := Int.ediv_eq_zero_of_lt (by omega) (by omega)
    rw [if_pos hzero, hnone]
  · rw [if_neg hzero, add_of_fits total limit (by omega)]
    change (subtract (total + limit) 1 >>= fun last => divide last limit) = _
    rw [subtract_of_fits _ _ (by omega)]
    exact divide_of_nonneg _ _ (by omega) (by omega) hlimit

/-- Where a window stands, counted without a bound. -/
def exact : Paging where
  skip
  limit
  page := skip / limit + 1
  totalPages := (total + limit - 1) / limit
  hasNext := skip + limit < total
  hasPrevious := 0 < skip

/-- The last index that a window reaches is all that can be too large, if the number of
workspaces is not. -/
theorem ofWindow_eq (hskip : 0 ≤ skip) (hmax : skip < 2 ^ 63) (hlimit : 1 ≤ limit)
    (htotal : 0 ≤ total) (h : total + limit < 2 ^ 63 ∨ total = 0) :
    ofWindow skip limit total =
      if skip + limit < 2 ^ 63 then .ok (exact skip limit total) else .error .addOverflow := by
  have hpage : skip / limit ≤ skip := Int.ediv_le_self limit hskip
  have hpos : 0 ≤ skip / limit := Int.ediv_nonneg hskip (by omega)
  unfold ofWindow
  rw [pagesFor_of_fits limit total hlimit htotal h, divide_of_nonneg skip limit hskip hmax hlimit]
  change (add (skip / limit) 1 >>= fun page => add skip limit >>= _) = _
  split_ifs with hstop
  · rw [add_of_fits _ _ (by omega), add_of_fits skip limit (by omega)]
    rfl
  · -- The page itself may be out of reach too, and then ends the computation with the same fault.
    rw [add_of_overflow skip limit (by omega)]
    by_cases hlast : skip / limit + 1 < 2 ^ 63
    · rw [add_of_fits _ _ (by omega)]
      rfl
    · rw [add_of_overflow _ _ (by omega)]
      rfl

end Paging

/-! ## Numbers of a query -/

namespace Http.WindowQuery

/-- No number of the window is above the integers of 64 bits. -/
def Fits (q : WindowQuery) : Prop := (∀ n ∈ q.skip, n < 2 ^ 63) ∧ ∀ n ∈ q.limit, n < 2 ^ 63

theorem readOnce_lt (field : String) (given : Option Int) (value : Octets) (n : Int)
    (h : readOnce field given value = .ok n) : n < 2 ^ 63 := by
  unfold readOnce at h
  split at h
  · cases h
  · have hle := Numeral.read_le _ _ _ (ok_of_mapError h)
    have hgreatest : (IntegerRange.signed 64).greatest = 2 ^ 63 - 1 := rfl
    omega

theorem takeFields_fits (fields : List (Octets × Octets)) (q q' : WindowQuery) (hq : q.Fits)
    (h : takeFields q fields = .ok q') : q'.Fits := by
  induction fields generalizing q with
  | nil =>
    obtain rfl := Except.ok.inj h
    exact hq
  | cons f fields ih =>
    obtain ⟨name, value⟩ := f
    unfold takeFields at h
    split at h
    · split at h
      · cases h
      · rename_i n hn
        refine ih { q with skip := some n } ⟨fun m hm => ?_, hq.2⟩ h
        obtain rfl := Option.some.inj hm
        exact readOnce_lt _ _ _ _ hn
    · split at h
      · split at h
        · cases h
        · rename_i n hn
          refine ih { q with limit := some n } ⟨hq.1, fun m hm => ?_⟩ h
          obtain rfl := Option.some.inj hm
          exact readOnce_lt _ _ _ _ hn
      · exact ih _ hq h

theorem fits_of_ofOctets (query : Octets) (q : WindowQuery) (h : ofOctets query = .ok q) :
    q.Fits := by
  refine takeFields_fits _ _ q ⟨fun n hn => ?_, fun n hn => ?_⟩ h
  · cases hn
  · cases hn

end Http.WindowQuery

/-! ## Windows -/

namespace Window

variable {skip limit : Option Int}

theorem refusal_status {fault : Fault} (h : ofRequest skip limit = .error fault) :
    fault.status = 400 := by
  unfold ofRequest at h
  simp only at h
  split_ifs at h
  · obtain rfl := Except.error.inj h
    rfl
  · obtain rfl := Except.error.inj h
    rfl

/-- What is true of a window that is not refused. -/
theorem bounds {w : Window} (h : ofRequest skip limit = .ok w) :
    w.skip = skip.getD 0 ∧ 0 ≤ w.skip ∧ 1 ≤ w.limit ∧ w.limit ≤ 100 := by
  unfold ofRequest maxLimit at h
  simp only at h
  split_ifs at h with hskip hlimit
  obtain rfl := Except.ok.inj h
  refine ⟨rfl, ?_, ?_, ?_⟩
  · simpa using hskip
  · change 1 ≤ min (limit.getD 100) 100
    omega
  · exact Int.min_le_right _ _

end Window

end Workspaces
