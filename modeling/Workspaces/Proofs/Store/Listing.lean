-- The listing holds every workspace once, the newer before the older, and of two as old as each
-- other the one with the lower id first.
import Workspaces.Proofs.Instant.Order
import Workspaces.Proofs.Store.Lookup

namespace Workspaces

namespace Uuid

theorem le_iff (a b : Uuid) : a ≤ b ↔ a.bits.toNat ≤ b.bits.toNat := Iff.rfl

theorem le_trans {a b c : Uuid} (hab : a ≤ b) (hbc : b ≤ c) : a ≤ c := by
  rw [le_iff] at *
  omega

theorem le_total (a b : Uuid) : a ≤ b ∨ b ≤ a := by
  rw [le_iff, le_iff]
  omega

theorem le_antisymm {a b : Uuid} (hab : a ≤ b) (hba : b ≤ a) : a = b := by
  rw [le_iff] at hab hba
  have hbits : a.bits = b.bits := by
    apply BitVec.eq_of_toNat_eq
    omega
  obtain ⟨a⟩ := a
  exact congrArg Uuid.mk hbits

end Uuid

namespace Store

/-! ## The order -/

/-- The newer first, and of two as old as each other the one with the lower id. -/
def Precedes (v w : Workspace) : Prop :=
  w.createdAt < v.createdAt ∨ v.createdAt = w.createdAt ∧ v.id ≤ w.id

theorem listedBefore_iff (v w : Workspace) : listedBefore v w = true ↔ Precedes v w := by
  unfold listedBefore Precedes
  change _ ↔ compare w.createdAt v.createdAt = .lt ∨ _
  cases h : compare w.createdAt v.createdAt with
  | lt => simp
  | eq =>
    have heq : w.createdAt = v.createdAt := Std.LawfulEqOrd.eq_of_compare h
    simp [heq]
  | gt =>
    have hne : v.createdAt ≠ w.createdAt := by
      intro heq
      rw [heq, Std.ReflOrd.compare_self] at h
      cases h
    simp [hne]

theorem Precedes.trans {u v w : Workspace} (huv : Precedes u v) (hvw : Precedes v w) :
    Precedes u w := by
  rcases huv with huv | ⟨huv, hid⟩ <;> rcases hvw with hvw | ⟨hvw, hid'⟩
  · exact .inl (Instant.lt_trans hvw huv)
  · exact .inl (hvw ▸ huv)
  · exact .inl (huv ▸ hvw)
  · exact .inr ⟨huv.trans hvw, Uuid.le_trans hid hid'⟩

theorem precedes_total (v w : Workspace) : Precedes v w ∨ Precedes w v := by
  rcases Instant.lt_trichotomy v.createdAt w.createdAt with h | h | h
  · exact .inr (.inl h)
  · rcases Uuid.le_total v.id w.id with hid | hid
    · exact .inl (.inr ⟨h, hid⟩)
    · exact .inr (.inr ⟨h.symm, hid⟩)
  · exact .inl (.inl h)

/-- Workspaces that stand before each other have the same id. -/
theorem Precedes.id_eq {v w : Workspace} (hvw : Precedes v w) (hwv : Precedes w v) :
    v.id = w.id := by
  rcases hvw with hvw | ⟨htime, hvw⟩
  · rcases hwv with hwv | ⟨htime, _⟩
    · exact absurd (Instant.lt_trans hvw hwv) (Instant.lt_irrefl _)
    · rw [htime] at hvw
      exact absurd hvw (Instant.lt_irrefl _)
  · rcases hwv with hwv | ⟨_, hwv⟩
    · rw [htime] at hwv
      exact absurd hwv (Instant.lt_irrefl _)
    · exact Uuid.le_antisymm hvw hwv

/-! ## Sorting -/

theorem insertListed_perm (w : Workspace) (vs : List Workspace) :
    (insertListed w vs).Perm (w :: vs) := by
  induction vs with
  | nil => exact .refl _
  | cons v vs ih =>
    unfold insertListed
    split
    · exact .refl _
    · exact (ih.cons v).trans (.swap w v vs)

theorem insertListed_sorted (w : Workspace) (vs : List Workspace) (h : vs.Pairwise Precedes) :
    (insertListed w vs).Pairwise Precedes := by
  induction vs with
  | nil => exact List.pairwise_singleton _ _
  | cons v vs ih =>
    obtain ⟨hv, hvs⟩ := List.pairwise_cons.1 h
    unfold insertListed
    split
    · rename_i hbefore
      have hwv := (listedBefore_iff w v).1 hbefore
      refine List.pairwise_cons.2 ⟨fun u hu => ?_, h⟩
      rcases List.mem_cons.1 hu with rfl | hu
      · exact hwv
      · exact hwv.trans (hv u hu)
    · rename_i hbehind
      have hvw : Precedes v w := by
        rcases precedes_total v w with hvw | hwv
        · exact hvw
        · exact absurd ((listedBefore_iff w v).2 hwv) hbehind
      refine List.pairwise_cons.2 ⟨fun u hu => ?_, ih hvs⟩
      rcases List.mem_cons.1 ((insertListed_perm w vs).mem_iff.1 hu) with rfl | hu
      · exact hvw
      · exact hv u hu

/-! ## The listing -/

variable (s : Store)

theorem listing_perm : s.listing.Perm s.workspaces := by
  unfold listing
  induction s.workspaces with
  | nil => exact .refl _
  | cons w ws ih => exact (insertListed_perm w _).trans (ih.cons w)

theorem listing_sorted : s.listing.Pairwise Precedes := by
  unfold listing
  induction s.workspaces with
  | nil => exact .nil
  | cons w ws ih => exact insertListed_sorted w _ ih

@[simp] theorem length_listing : s.listing.length = s.count := by
  rw [s.listing_perm.length_eq]
  simp [workspaces, count]

end Store

end Workspaces
