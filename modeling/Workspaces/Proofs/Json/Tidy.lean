-- What values are like when they were read from a text: integers have 64 bits, objects hold their
-- members by ascending name, and brackets are nested no deeper than was allowed.
import Mathlib.Algebra.Group.Int.Defs
import Workspaces.Json.Read
import Workspaces.Proofs.Except

namespace Workspaces.Json

/-! ## Floating-point numbers -/

mutual

/-- Whether a floating-point number stands anywhere in the value. -/
def hasFloat : Json → Bool
  | .number (.float _) => true
  | .array vs => itemsHaveFloat vs
  | .object ms => membersHaveFloat ms
  | .null | .bool _ | .number (.integer _) | .string _ => false

def itemsHaveFloat : List Json → Bool
  | [] => false
  | v :: vs => v.hasFloat || itemsHaveFloat vs

def membersHaveFloat : List (String × Json) → Bool
  | [] => false
  | (_, v) :: ms => v.hasFloat || membersHaveFloat ms

end

theorem hasFloat_array_iff (vs : List Json) :
    (Json.array vs).hasFloat = false ↔ ∀ v ∈ vs, v.hasFloat = false := by
  rw [hasFloat]
  induction vs with
  | nil => simp [itemsHaveFloat]
  | cons v vs ih => simp [itemsHaveFloat, ih]

theorem hasFloat_object_iff (ms : List (String × Json)) :
    (Json.object ms).hasFloat = false ↔ ∀ m ∈ ms, m.2.hasFloat = false := by
  rw [hasFloat]
  induction ms with
  | nil => simp [membersHaveFloat]
  | cons m ms ih => simp [membersHaveFloat, ih]

/-! ## Tidy values -/

/-- An integer has 64 bits, with a sign or without one. -/
def Number.Fits : Number → Prop
  | .integer n => (IntegerRange.signed 64).contains n = true ∨ (IntegerRange.unsigned 64).contains n
  | .float _ => True

theorem Number.fits_integer_iff (n : Int) :
    (Number.integer n).Fits ↔ -2 ^ 63 ≤ n ∧ n < 2 ^ 64 := by
  have hsigned : IntegerRange.signed 64 = ⟨-2 ^ 63, 2 ^ 63 - 1⟩ := rfl
  have hunsigned : IntegerRange.unsigned 64 = ⟨0, 2 ^ 64 - 1⟩ := rfl
  simp only [Fits, IntegerRange.contains, hsigned, hunsigned, Bool.and_eq_true, decide_eq_true_eq]
  omega

/-- Each name stands behind those that are less, and so stands there once. -/
def Ascending (ms : List (String × Json)) : Prop := ms.Pairwise fun m n => m.1 < n.1

/-- A value without floating-point numbers, as it is read where brackets may be nested less than
`depth` deep. -/
inductive Tidy : (depth : Nat) → Json → Prop
  | null {depth : Nat} : Tidy (depth + 1) .null
  | bool {depth : Nat} (b : Bool) : Tidy (depth + 1) (.bool b)
  | integer {depth : Nat} {n : Int} (fits : (Number.integer n).Fits) :
      Tidy (depth + 1) (.number (.integer n))
  | string {depth : Nat} (s : String) : Tidy (depth + 1) (.string s)
  | array {depth : Nat} {vs : List Json} (items : ∀ v ∈ vs, Tidy (depth + 1) v) :
      Tidy (depth + 2) (.array vs)
  | object {depth : Nat} {ms : List (String × Json)} (ascending : Ascending ms)
      (members : ∀ m ∈ ms, Tidy (depth + 1) m.2) : Tidy (depth + 2) (.object ms)

/-! ## Numbers that are taken -/

section Numbers

variable {negative : Bool} {n : Nat} {power : Int} {t rest : Octets} {x : Number}

theorem fits_floatOf (h : floatOf negative n power t = .ok (x, rest)) : x.Fits := by
  unfold floatOf at h
  split at h
  · obtain ⟨rfl, _⟩ := Prod.mk.inj (Except.ok.inj h)
    trivial
  · cases h

theorem fits_takePower {minus : Bool} {e : Nat}
    (h : takePower negative n power minus e t = .ok (x, rest)) : x.Fits := by
  fun_induction takePower negative n power minus e t with
  | case1 => exact fits_floatOf h
  | case2 => exact fits_floatOf h
  | case3 e b t d hd _ ih => exact ih h
  | case4 => cases h
  | case5 =>
    obtain ⟨rfl, _⟩ := Prod.mk.inj (Except.ok.inj h)
    trivial

theorem fits_takeExponent (h : takeExponent negative n power t = .ok (x, rest)) : x.Fits := by
  unfold takeExponent at h
  simp only at h
  split at h
  · cases h
  · split at h
    · cases h
    · exact fits_takePower h

theorem fits_takeExponent? (h : takeExponent? negative n power t = .ok (x, rest)) : x.Fits := by
  unfold takeExponent? at h
  split at h
  · split at h
    · exact fits_takeExponent h
    · exact fits_floatOf h
  · exact fits_floatOf h

theorem fits_takeFraction (h : takeFraction negative n power t = .ok (x, rest)) : x.Fits := by
  unfold takeFraction at h
  simp only at h
  split at h
  · exact fits_takeExponent? h
  · split at h
    · cases h
    · exact fits_takeExponent? h

theorem fits_whole {dropped : Nat} (hn : n ≤ (IntegerRange.unsigned 64).greatest)
    (h : takeNumberRest.whole negative n dropped t = .ok (x, rest)) : x.Fits := by
  unfold takeNumberRest.whole at h
  split at h
  · exact fits_floatOf h
  · split at h
    · obtain ⟨rfl, _⟩ := Prod.mk.inj (Except.ok.inj h)
      right
      rw [IntegerRange.contains, Bool.and_eq_true, decide_eq_true_eq, decide_eq_true_eq]
      exact ⟨Int.natCast_nonneg n, Int.ofNat_le.2 hn⟩
    · split at h
      · rename_i hminus
        obtain ⟨rfl, _⟩ := Prod.mk.inj (Except.ok.inj h)
        left
        exact hminus.2
      · exact fits_floatOf h

theorem fits_takeNumberRest {dropped : Nat} (hn : n ≤ (IntegerRange.unsigned 64).greatest)
    (h : takeNumberRest negative n dropped t = .ok (x, rest)) : x.Fits := by
  unfold takeNumberRest at h
  split at h
  · split at h
    · exact fits_takeFraction h
    · split at h
      · exact fits_takeExponent h
      · exact fits_whole hn h
  · exact fits_whole hn h

/-- Digits are taken as long as there is room for them. -/
theorem takeDigits_le {count m count' : Nat} (hn : n ≤ (IntegerRange.unsigned 64).greatest)
    (h : takeDigits n count t = (m, count', rest)) : m ≤ (IntegerRange.unsigned 64).greatest := by
  fun_induction takeDigits n count t with
  | case1 n count =>
    obtain ⟨rfl, _⟩ := Prod.mk.inj h
    exact hn
  | case2 n count b t hb =>
    obtain ⟨rfl, _⟩ := Prod.mk.inj h
    exact hn
  | case3 n count b t d hd hroom ih => exact ih hroom h
  | case4 n count b t d hd _ =>
    obtain ⟨rfl, _⟩ := Prod.mk.inj h
    exact hn

theorem digit?_le {b : UInt8} {d : Nat} (h : Octets.digit? b = some d) : d ≤ 9 := by
  unfold Octets.digit? at h
  split at h
  · rename_i hdigit
    have hnine : b.toNat ≤ 0x39 := UInt8.le_iff_toNat_le.1 hdigit.2
    have hd := Option.some.inj h
    omega
  · cases h

theorem fits_takeNumber (h : takeNumber negative t = .ok (x, rest)) : x.Fits := by
  unfold takeNumber at h
  split at h
  · cases h
  · split at h
    · cases h
    · split at h
      · cases h
      · exact fits_takeNumberRest (Nat.zero_le _) h
    · rename_i d _ hd
      have hroom : d ≤ (IntegerRange.unsigned 64).greatest :=
        Nat.le_trans (digit?_le hd) (by decide)
      simp only at h
      exact fits_takeNumberRest (takeDigits_le hroom rfl) h

end Numbers

/-! ## Lists and objects that are taken -/

/-- What is true of whatever is taken for an item is true of all items. -/
theorem takeItems_all {α : Type} {item : Reader α} {P : α → Prop}
    (hitem : ∀ t x rest, item t = .ok (x, rest) → P x) {turns : Octets} {done xs : List α}
    {t rest : Octets} (hdone : ∀ x ∈ done, P x)
    (h : takeItems item turns done t = .ok (xs, rest)) : ∀ x ∈ xs, P x := by
  induction turns generalizing done t with
  | nil => cases h
  | cons _ turns ih =>
    unfold takeItems at h
    split at h
    · cases h
    · obtain ⟨_, _, hxs⟩ := ok_of_map h
      obtain ⟨rfl, _⟩ := Prod.mk.inj hxs
      intro x hx
      exact hdone x (List.mem_reverse.1 hx)
    · split at h
      · cases h
      · rename_i x u hx
        apply ih _ h
        intro y hy
        rcases List.mem_cons.1 hy with rfl | hy
        · exact hitem _ _ _ hx
        · exact hdone y hy

theorem mem_setMember {name : String} {v : Json} {ms : List (String × Json)} {m : String × Json}
    (h : m ∈ setMember name v ms) : m = (name, v) ∨ m ∈ ms := by
  induction ms with
  | nil => simpa [setMember] using h
  | cons n ms ih =>
    unfold setMember at h
    split at h
    · simpa using h
    · split at h
      · rcases List.mem_cons.1 h with h | h
        · exact .inl h
        · exact .inr (List.mem_cons_of_mem _ h)
      · rcases List.mem_cons.1 h with h | h
        · exact .inr (List.mem_cons.2 (.inl h))
        · rcases ih h with h | h
          · exact .inl h
          · exact .inr (List.mem_cons_of_mem _ h)

theorem Ascending.setMember {ms : List (String × Json)} (h : Ascending ms) (name : String)
    (v : Json) : Ascending (setMember name v ms) := by
  unfold Ascending at h ⊢
  induction ms with
  | nil => simp [Json.setMember]
  | cons n ms ih =>
    obtain ⟨hn, hms⟩ := List.pairwise_cons.1 h
    unfold Json.setMember
    split
    · rename_i hless
      apply List.pairwise_cons.2
      refine ⟨?_, h⟩
      intro m hm
      rcases List.mem_cons.1 hm with rfl | hm
      · exact hless
      · exact String.lt_trans hless (hn m hm)
    · split
      · rename_i hname
        apply List.pairwise_cons.2
        refine ⟨?_, hms⟩
        intro m hm
        rw [hname]
        exact hn m hm
      · rename_i hless hname
        apply List.pairwise_cons.2
        refine ⟨?_, ih hms⟩
        intro m hm
        rcases mem_setMember hm with rfl | hm
        · apply Decidable.byContradiction
          intro hmore
          exact hname (String.le_antisymm (String.not_lt.1 hmore) (String.not_lt.1 hless))
        · exact hn m hm

/-- What is true of whatever is taken for a value is true of all members, and these ascend. -/
theorem takeMembers_all {value : Reader Json} {P : Json → Prop}
    (hvalue : ∀ t v rest, value t = .ok (v, rest) → P v) {turns : Octets} {later : Bool}
    {done ms : List (String × Json)} {t rest : Octets} (hascending : Ascending done)
    (hdone : ∀ m ∈ done, P m.2) (h : takeMembers value turns later done t = .ok (ms, rest)) :
    Ascending ms ∧ ∀ m ∈ ms, P m.2 := by
  induction turns generalizing later done t with
  | nil => cases h
  | cons _ turns ih =>
    unfold takeMembers at h
    split at h
    · cases h
    · obtain ⟨_, _, hms⟩ := ok_of_map h
      obtain ⟨rfl, _⟩ := Prod.mk.inj hms
      exact ⟨hascending, hdone⟩
    · split at h
      · cases h
      · split at h
        · cases h
        · rename_i v u hv
          apply ih (hascending.setMember _ v) _ h
          intro m hm
          rcases mem_setMember hm with rfl | hm
          · exact hvalue _ _ _ hv
          · exact hdone m hm

/-! ## Values that are taken -/

theorem tidy_of_takeLeaf {depth : Nat} {b : UInt8} {t rest : Octets} {v : Json}
    (h : takeLeaf b t = .ok (v, rest)) (hfloat : v.hasFloat = false) : Tidy (depth + 1) v := by
  have hnumber : ∀ {negative u}, (takeNumber negative u).map (fun r => (Json.number r.1, r.2)) =
      .ok (v, rest) → Tidy (depth + 1) v := by
    intro negative u hu
    obtain ⟨⟨x, w⟩, htake, hx⟩ := ok_of_map hu
    obtain ⟨rfl, _⟩ := Prod.mk.inj hx
    cases x with
    | integer n => exact .integer (fits_takeNumber htake)
    | float x => cases hfloat
  have hleaf : ∀ {β : Type} {r : Except Stop β} {f : β → Json × Octets}, r.map f = .ok (v, rest) →
      (∀ y, Tidy (depth + 1) (f y).1) → Tidy (depth + 1) v := by
    intro β r f hr hf
    obtain ⟨y, _, hy⟩ := ok_of_map hr
    have hfirst : (f y).1 = v := by rw [hy]
    rw [← hfirst]
    exact hf y
  unfold takeLeaf at h
  split at h
  · exact hleaf h fun _ => .null
  · exact hleaf h fun _ => .bool true
  · exact hleaf h fun _ => .bool false
  · exact hleaf h fun r => .string r.1
  · exact hnumber h
  · split at h
    · exact hnumber h
    · cases h

/-- A value that is taken is tidy, but for floating-point numbers. -/
theorem tidy_of_takeValue {depth : Nat} {t rest : Octets} {v : Json}
    (h : takeValue depth t = .ok (v, rest)) (hfloat : v.hasFloat = false) : Tidy depth v := by
  induction depth generalizing t v rest with
  | zero => cases h
  | succ depth ih =>
    unfold takeValue at h
    split at h
    · cases h
    · split at h
      · split at h
        · cases h
        · rename_i hdepth
          obtain ⟨depth, rfl⟩ := Nat.exists_eq_succ_of_ne_zero hdepth
          obtain ⟨⟨vs, u⟩, hvs, hv⟩ := ok_of_map h
          obtain ⟨rfl, _⟩ := Prod.mk.inj hv
          rw [hasFloat_array_iff] at hfloat
          have hitems := takeItems_all (P := fun v => v.hasFloat = false → Tidy (depth + 1) v)
            (fun t v rest hv => ih hv) (List.forall_mem_nil _) hvs
          exact .array fun v hv => hitems v hv (hfloat v hv)
      · split at h
        · split at h
          · cases h
          · rename_i hdepth
            obtain ⟨depth, rfl⟩ := Nat.exists_eq_succ_of_ne_zero hdepth
            obtain ⟨⟨ms, u⟩, hms, hv⟩ := ok_of_map h
            obtain ⟨rfl, _⟩ := Prod.mk.inj hv
            rw [hasFloat_object_iff] at hfloat
            obtain ⟨hascending, hmembers⟩ :=
              takeMembers_all (P := fun v => v.hasFloat = false → Tidy (depth + 1) v)
                (fun t v rest hv => ih hv) .nil (List.forall_mem_nil _) hms
            exact .object hascending fun m hm => hmembers m hm (hfloat m hm)
        · exact tidy_of_takeLeaf h hfloat

end Workspaces.Json
