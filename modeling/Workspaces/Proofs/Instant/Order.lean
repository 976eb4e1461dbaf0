-- Moments are linearly ordered: of two different ones, one is earlier.
import Workspaces.Instant.Basic

namespace Workspaces.Instant

instance : Std.TransOrd Instant := by
  unfold Std.TransOrd
  change Std.TransCmp (compareLex (compareOn fun i : Instant => i.date.year) _)
  infer_instance

/-- Moments that compare as equal agree in every part. -/
instance : Std.LawfulEqOrd Instant where
  eq_of_compare {i j} h := by
    change compareLex _ _ i j = .eq at h
    simp only [compareLex_eq_eq, compareOn, Std.LawfulEqOrd.compare_eq_iff_eq] at h
    obtain ⟨hyear, hmonth, hday, hsecond, hnano⟩ := h
    obtain ⟨⟨year, month, day⟩, second, nano⟩ := i
    obtain ⟨⟨year', month', day'⟩, second', nano'⟩ := j
    simp only at hyear hmonth hday hsecond hnano
    subst hyear hmonth hday hsecond hnano
    rfl

theorem le_refl (i : Instant) : i ≤ i := by
  change (compare i i).isLE = true
  exact Std.ReflCmp.isLE_rfl

theorem le_trans {i j k : Instant} (hij : i ≤ j) (hjk : j ≤ k) : i ≤ k :=
  Std.TransCmp.isLE_trans hij hjk

theorem lt_trans {i j k : Instant} (hij : i < j) (hjk : j < k) : i < k :=
  Std.TransCmp.lt_trans hij hjk

theorem lt_irrefl (i : Instant) : ¬ i < i := by
  intro h
  change compare i i = .lt at h
  rw [Std.ReflOrd.compare_self] at h
  cases h

/-- Of two moments one is earlier, or they are the same. -/
theorem lt_trichotomy (i j : Instant) : i < j ∨ i = j ∨ j < i := by
  change compare i j = .lt ∨ i = j ∨ compare j i = .lt
  cases h : compare i j with
  | lt => exact .inl rfl
  | eq => exact .inr (.inl (Std.LawfulEqOrd.eq_of_compare h))
  | gt => exact .inr (.inr (Std.OrientedCmp.gt_iff_lt.1 h))

end Workspaces.Instant
