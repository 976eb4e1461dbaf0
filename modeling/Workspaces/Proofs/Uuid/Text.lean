-- The canonical spelling of an id tells the id, also between the quotes of a JSON string.
import Mathlib.Algebra.Group.Nat.Defs
import Mathlib.Data.List.Basic
import Workspaces.Uuid.Basic

namespace Workspaces

/-! ## Hexadecimal digits -/

theorem Json.hexChar_inj (n m : Nat) (hn : n < 16) (hm : m < 16)
    (h : Json.hexChar n = Json.hexChar m) : n = m := by
  have hall : ∀ n < 16, ∀ m < 16, Json.hexChar n = Json.hexChar m → n = m := by decide
  exact hall n hn m hm h

namespace Uuid

/-- The digits tell the number as far as they reach. -/
theorem hexChars_inj (count n m : Nat) (h : hexChars count n = hexChars count m) :
    n % 16 ^ count = m % 16 ^ count := by
  induction count with
  | zero => simp [Nat.mod_one]
  | succ count ih =>
    obtain ⟨hhead, htail⟩ := List.cons.inj h
    have hdigit := Json.hexChar_inj _ _ (Nat.mod_lt _ (by decide)) (Nat.mod_lt _ (by decide)) hhead
    rw [Nat.shiftRight_eq_div_pow, Nat.shiftRight_eq_div_pow, Nat.pow_mul] at hdigit
    change n / 16 ^ count % 16 = m / 16 ^ count % 16 at hdigit
    rw [Nat.mod_pow_succ, Nat.mod_pow_succ, hdigit, ih htail]

theorem mem_hexChars (count n : Nat) (c : Char) (h : c ∈ hexChars count n) :
    ∃ k, k < 16 ∧ c = Json.hexChar k := by
  induction count with
  | zero => cases h
  | succ count ih =>
    rcases List.mem_cons.1 h with rfl | htail
    · exact ⟨_, Nat.mod_lt _ (by decide), rfl⟩
    · exact ih htail

theorem hexChars_ne_dash (count n : Nat) (c : Char) (h : c ∈ hexChars count n) : c ≠ '-' := by
  obtain ⟨k, _, rfl⟩ := mem_hexChars count n c h
  exact Nat.digitChar_ne _ (by decide)

/-! ## Spelling -/

theorem mem_chars (u : Uuid) (c : Char) (h : c ∈ u.chars) :
    c = '-' ∨ c ∈ hexChars 32 u.bits.toNat := by
  have htake : ∀ k n, c ∈ ((hexChars 32 u.bits.toNat).drop k).take n →
      c ∈ hexChars 32 u.bits.toNat := fun k n hc => List.mem_of_mem_drop (List.mem_of_mem_take hc)
  unfold chars at h
  simp only [List.mem_append, List.mem_cons] at h
  rcases h with h | h | h | h | h | h | h | h | h
  · exact .inr (htake 0 8 h)
  · exact .inl h
  · exact .inr (htake 8 4 h)
  · exact .inl h
  · exact .inr (htake 12 4 h)
  · exact .inl h
  · exact .inr (htake 16 4 h)
  · exact .inl h
  · exact .inr (List.mem_of_mem_drop h)

/-- Without its dashes the spelling is the digits. -/
theorem filter_chars (u : Uuid) : u.chars.filter (· ≠ '-') = hexChars 32 u.bits.toNat := by
  have hkeep : ∀ cs : List Char, (∀ c ∈ cs, c ∈ hexChars 32 u.bits.toNat) →
      cs.filter (· ≠ '-') = cs := by
    intro cs hcs
    rw [List.filter_eq_self]
    intro c hc
    exact decide_eq_true (hexChars_ne_dash 32 _ c (hcs c hc))
  have hgroup : ∀ k n, (((hexChars 32 u.bits.toNat).drop k).take n).filter (· ≠ '-') =
      ((hexChars 32 u.bits.toNat).drop k).take n := fun k n =>
    hkeep _ fun c hc => List.mem_of_mem_drop (List.mem_of_mem_take hc)
  have hjoin : ∀ k, ((hexChars 32 u.bits.toNat).drop k).take 4 ++
      (hexChars 32 u.bits.toNat).drop (k + 4) = (hexChars 32 u.bits.toNat).drop k := by
    intro k
    rw [← List.drop_drop, List.take_append_drop]
  have hfirst := hgroup 0 8
  rw [List.drop_zero] at hfirst
  have hlast := hkeep ((hexChars 32 u.bits.toNat).drop 20) fun c hc => List.mem_of_mem_drop hc
  unfold chars
  simp only [List.filter_append, List.filter_cons_of_neg, hfirst, hgroup, hlast, ne_eq,
    not_true_eq_false, decide_false, Bool.false_eq_true, not_false_eq_true]
  rw [hjoin 16, hjoin 12, hjoin 8, List.take_append_drop]

theorem chars_inj (u v : Uuid) (h : u.chars = v.chars) : u = v := by
  have hdigits : hexChars 32 u.bits.toNat = hexChars 32 v.bits.toNat := by
    rw [← filter_chars, ← filter_chars, h]
  have hbits := hexChars_inj 32 _ _ hdigits
  rw [show 16 ^ 32 = 2 ^ 128 from rfl, Nat.mod_eq_of_lt u.bits.isLt,
    Nat.mod_eq_of_lt v.bits.isLt] at hbits
  exact congrArg Uuid.mk (BitVec.eq_of_toNat_eq hbits)

/-- No character of a spelling is escaped in a string. -/
theorem quoted_text (u : Uuid) : Json.quoted u.text = '"' :: (u.chars ++ ['"']) := by
  have hdigit : ∀ k < 16, Json.escaped (Json.hexChar k) = [Json.hexChar k] := by decide
  have hself : ∀ c ∈ u.chars, Json.escaped c = [c] := by
    intro c hc
    rcases mem_chars u c hc with rfl | hc
    · rfl
    · obtain ⟨k, hk, rfl⟩ := mem_hexChars 32 _ c hc
      exact hdigit k hk
  unfold Json.quoted text
  rw [String.toList_ofList, List.flatMap_congr hself, List.flatMap_singleton']

theorem quoted_text_inj (u v : Uuid) (h : Json.quoted u.text = Json.quoted v.text) : u = v := by
  rw [quoted_text, quoted_text] at h
  exact chars_inj u v (List.append_cancel_right (List.cons.inj h).2)

end Uuid

end Workspaces
