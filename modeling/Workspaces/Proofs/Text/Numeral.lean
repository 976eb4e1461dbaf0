-- A numeral tells its number, and exactly the numerals of numbers in range are read.
import Mathlib.Algebra.Group.Nat.Defs
import Workspaces.Proofs.Except
import Workspaces.Proofs.Text.Utf8
import Workspaces.Text.Numeral

namespace Workspaces.Numeral

/-! ## Writing -/

theorem isDigit_of_mem_toDigits {n : Nat} {c : Char} (h : c ∈ Nat.toDigits 10 n) :
    c.isDigit = true := Nat.isDigit_of_mem_toDigits (by decide) (by decide) h

/-- No digit is a minus sign. -/
theorem minus_not_mem_toDigits (n : Nat) : '-' ∉ Nat.toDigits 10 n := by
  intro h
  have hdigit : '-'.isDigit = true := isDigit_of_mem_toDigits h
  cases hdigit

theorem toDigits_inj {m n : Nat} (h : Nat.toDigits 10 m = Nat.toDigits 10 n) : m = n := by
  rw [← Nat.ofDigitChars_ten_toDigits (n := m), h, Nat.ofDigitChars_ten_toDigits]

/-- No zero stands in front of other digits. -/
theorem toDigits_of_pos (n : Nat) (h : 0 < n) : ∃ c cs, Nat.toDigits 10 n = c :: cs ∧ c ≠ '0' := by
  induction n using Nat.strongRecOn with
  | _ n ih =>
    by_cases hten : n < 10
    · have hall : ∀ n < 10, 0 < n → Nat.digitChar n ≠ '0' := by decide
      exact ⟨_, [], Nat.toDigits_of_lt_base hten, hall n hten h⟩
    · obtain ⟨c, cs, hdigits, hc⟩ := ih (n / 10) (by omega) (by omega)
      refine ⟨c, cs ++ [Nat.digitChar (n % 10)], ?_, hc⟩
      rw [Nat.toDigits_of_base_le (by decide) (by omega), hdigits]
      rfl

/-- A digit is at most nine. -/
theorem digit_le {c : Char} (h : c.isDigit = true) : c.toNat - '0'.toNat ≤ 9 := by
  have hnine : c.toNat ≤ 57 := (Char.isDigit_iff_toNat.1 h).2
  change c.toNat - 48 ≤ 9
  omega

/-- Digits behind a number make it no less. -/
theorem le_ofDigitChars (cs : List Char) (n : Nat) : n ≤ Nat.ofDigitChars 10 cs n := by
  induction cs generalizing n with
  | nil => exact Nat.le_refl n
  | cons c cs ih =>
    rw [Nat.ofDigitChars_cons]
    have hmore := ih (10 * n + (c.toNat - '0'.toNat))
    omega

/-- The digits in front count for less than one more. -/
theorem ofDigitChars_lt_of_init {cs : List Char} (h : ∀ c ∈ cs, c.isDigit = true) (n : Nat) :
    Nat.ofDigitChars 10 cs n < (n + 1) * 10 ^ cs.length := by
  induction cs generalizing n with
  | nil =>
    rw [Nat.ofDigitChars_nil, List.length_nil, Nat.pow_zero]
    omega
  | cons c cs ih =>
    obtain ⟨hc, hcs⟩ := List.forall_mem_cons.1 h
    have hdigit : c.toNat - '0'.toNat ≤ 9 := digit_le hc
    calc Nat.ofDigitChars 10 (c :: cs) n
        = Nat.ofDigitChars 10 cs (10 * n + (c.toNat - '0'.toNat)) := Nat.ofDigitChars_cons
      _ < (10 * n + (c.toNat - '0'.toNat) + 1) * 10 ^ cs.length := ih hcs _
      _ ≤ (n + 1) * 10 * 10 ^ cs.length := Nat.mul_le_mul_right _ (by omega)
      _ = (n + 1) * 10 ^ (c :: cs).length := by
          rw [List.length_cons, Nat.pow_succ, Nat.mul_assoc, Nat.mul_comm 10]

/-- So many digits make a number below that power of ten. -/
theorem ofDigitChars_lt {cs : List Char} (h : ∀ c ∈ cs, c.isDigit = true) :
    Nat.ofDigitChars 10 cs 0 < 10 ^ cs.length := by
  have hlt := ofDigitChars_lt_of_init h 0
  rwa [Nat.zero_add, Nat.one_mul] at hlt

theorem write_inj {m n : Int} (h : write m = write n) : m = n := by
  unfold write at h
  split at h <;> split at h
  · have hdigits := toDigits_inj (List.cons.inj h).2
    omega
  · exact absurd (h ▸ List.mem_cons_self) (minus_not_mem_toDigits n.natAbs)
  · exact absurd (h ▸ List.mem_cons_self) (minus_not_mem_toDigits m.natAbs)
  · have hdigits := toDigits_inj h
    omega

/-! ## Digits as octets -/

/-- A digit is one octet, which tells its value. -/
theorem digit_of_char {c : Char} (h : c.isDigit = true) :
    ∃ b, String.utf8EncodeChar c = [b] ∧ Octets.digit? b = some (c.toNat - '0'.toNat) := by
  have hrange : 48 ≤ c.val.toNat ∧ c.val.toNat ≤ 57 := Char.isDigit_iff_toNat.1 h
  have hform : Octets.Form c [UInt8.ofNat c.val.toNat] := by
    apply Octets.Form.one
    · rw [UInt8.toNat_ofNat']
      omega
    · rw [UInt8.toNat_ofNat']
      omega
  refine ⟨UInt8.ofNat c.val.toNat, hform.eq_utf8EncodeChar.symm, ?_⟩
  have hall : ∀ n < 58, 48 ≤ n → Octets.digit? (UInt8.ofNat n) = some (n - 48) := by
    decide +kernel
  exact hall c.val.toNat (by omega) hrange.1

theorem digit?_of_outside {b : UInt8} (h : b.toNat < 48 ∨ 57 < b.toNat) :
    Octets.digit? b = none := by
  unfold Octets.digit?
  rw [if_neg]
  simp only [UInt8.le_iff_toNat_le, UInt8.reduceToNat]
  omega

/-- Any other character begins with an octet that is no digit. -/
theorem no_digit_of_char {c : Char} (h : c.isDigit = false) :
    ∃ b t, String.utf8EncodeChar c = b :: t ∧ Octets.digit? b = none := by
  have hrange : ¬ (48 ≤ c.val.toNat ∧ c.val.toNat ≤ 57) := by
    intro hin
    rw [Char.isDigit_iff_toNat.2 hin] at h
    cases h
  have hform := Octets.Form.of_char c
  generalize String.utf8EncodeChar c = t at hform ⊢
  cases hform with
  | one lead code => exact ⟨_, _, rfl, digit?_of_outside (by omega)⟩
  | two lead => exact ⟨_, _, rfl, digit?_of_outside (by omega)⟩
  | three lead => exact ⟨_, _, rfl, digit?_of_outside (by omega)⟩
  | four lead => exact ⟨_, _, rfl, digit?_of_outside (by omega)⟩

/-! ## Reading -/

theorem digitsOnto_le (bound : Nat) (excess : NumeralFault) (t : Octets) (n m : Nat)
    (hn : n ≤ bound) (h : digitsOnto bound excess n t = .ok m) : m ≤ bound := by
  induction t generalizing n with
  | nil =>
    obtain rfl := Except.ok.inj h
    exact hn
  | cons b rest ih =>
    unfold digitsOnto at h
    split at h
    · cases h
    · split at h
      · cases h
      · exact ih _ (by omega) h

/-- What is read is not above the range. -/
theorem read_le (range : IntegerRange) (t : Octets) (n : Int) (h : read range t = .ok n) :
    n ≤ range.greatest := by
  have hplain : ∀ u, (digitsOnto range.greatest .tooLarge 0 u).map Int.ofNat = .ok n →
      n ≤ range.greatest := by
    intro u hu
    obtain ⟨m, hread, rfl⟩ := ok_of_map hu
    exact Int.ofNat_le.2 (digitsOnto_le _ _ _ _ _ (Nat.zero_le _) hread)
  unfold read at h
  split at h
  · cases h
  · split at h
    · exact hplain _ h
    · split at h
      · obtain ⟨m, _, rfl⟩ := ok_of_map h
        change -(m : Int) ≤ range.greatest
        omega
      · exact hplain _ h

/-- Digits and nothing else are read, as the number that they tell with what was read before. -/
theorem digitsOnto_eq_ok_iff {bound : Nat} (excess : NumeralFault) (cs : List Char) {n m : Nat}
    (hn : n ≤ bound) : digitsOnto bound excess n (Octets.ofChars cs) = .ok m ↔
      (∀ c ∈ cs, c.isDigit = true) ∧ Nat.ofDigitChars 10 cs n = m ∧ m ≤ bound := by
  induction cs generalizing n with
  | nil =>
    change Except.ok n = Except.ok m ↔ _
    rw [Except.ok.injEq, Nat.ofDigitChars_nil]
    constructor
    · rintro rfl
      exact ⟨by simp, rfl, hn⟩
    · exact fun h => h.2.1
  | cons c cs ih =>
    rw [Octets.ofChars_cons, List.forall_mem_cons, Nat.ofDigitChars_cons]
    by_cases hc : c.isDigit = true
    · obtain ⟨b, hoctets, hdigit⟩ := digit_of_char hc
      rw [hoctets, List.singleton_append, digitsOnto]
      simp only [hdigit]
      split
      · rename_i hexcess
        simp only [reduceCtorEq, false_iff, not_and]
        rintro - rfl
        have hmore := le_ofDigitChars cs (10 * n + (c.toNat - '0'.toNat))
        omega
      · rw [ih (by omega)]
        simp only [hc, true_and]
    · rw [Bool.not_eq_true] at hc
      obtain ⟨b, t, hoctets, hdigit⟩ := no_digit_of_char hc
      rw [hoctets, List.cons_append, digitsOnto]
      simp only [hdigit, hc]
      simp

/-! ## Numerals without a minus sign -/

/-- The characters tell the number: by digits, one at least, which a plus sign may stand in front
of. -/
def Tells (cs : List Char) (n : Nat) : Prop :=
  ∃ ds, ds ≠ [] ∧ (∀ c ∈ ds, c.isDigit = true) ∧ (cs = ds ∨ cs = '+' :: ds) ∧
    Nat.ofDigitChars 10 ds 0 = n

theorem tells_toDigits (n : Nat) : Tells (Nat.toDigits 10 n) n :=
  ⟨Nat.toDigits 10 n, Nat.toDigits_ne_nil, fun _ hc => isDigit_of_mem_toDigits hc, .inl rfl,
    Nat.ofDigitChars_ten_toDigits⟩

theorem not_tells_nil (n : Nat) : ¬ Tells [] n := by
  rintro ⟨ds, hne, _, rfl | h, _⟩
  · exact hne rfl
  · cases h

theorem tells_plus_iff (cs : List Char) (n : Nat) : Tells ('+' :: cs) n ↔
    cs ≠ [] ∧ (∀ c ∈ cs, c.isDigit = true) ∧ Nat.ofDigitChars 10 cs 0 = n := by
  constructor
  · rintro ⟨ds, hne, hds, rfl | h, hn⟩
    · exact absurd (hds '+' List.mem_cons_self) (by decide)
    · obtain ⟨_, rfl⟩ := List.cons.inj h
      exact ⟨hne, hds, hn⟩
  · rintro ⟨hne, hcs, hn⟩
    exact ⟨cs, hne, hcs, .inr rfl, hn⟩

theorem tells_cons_iff {c : Char} (hc : c ≠ '+') (cs : List Char) (n : Nat) : Tells (c :: cs) n ↔
    (∀ d ∈ c :: cs, d.isDigit = true) ∧ Nat.ofDigitChars 10 (c :: cs) 0 = n := by
  constructor
  · rintro ⟨ds, _, hds, rfl | h, hn⟩
    · exact ⟨hds, hn⟩
    · exact absurd (List.cons.inj h).1 hc
  · rintro ⟨hcs, hn⟩
    exact ⟨c :: cs, List.cons_ne_nil c cs, hcs, .inl rfl, hn⟩

/-- Exactly the numerals of numbers in range are read. -/
theorem read_unsigned_eq_ok_iff (bits : Nat) (cs : List Char) (m : Int) :
    read (.unsigned bits) (Octets.ofChars cs) = .ok m ↔
      ∃ n : Nat, m = n ∧ Tells cs n ∧ n < 2 ^ bits := by
  have hgreatest : (IntegerRange.unsigned bits).greatest = 2 ^ bits - 1 := by
    simp [IntegerRange.unsigned, Nat.shiftLeft_eq]
  have hpos : 0 < 2 ^ bits := Nat.two_pow_pos bits
  have hdigits : ∀ ds, (digitsOnto (IntegerRange.unsigned bits).greatest .tooLarge 0
      (Octets.ofChars ds)).map Int.ofNat = .ok m ↔
      ∃ n : Nat, m = n ∧ ((∀ c ∈ ds, c.isDigit = true) ∧ Nat.ofDigitChars 10 ds 0 = n) ∧
        n < 2 ^ bits := by
    intro ds
    constructor
    · intro h
      obtain ⟨n, hread, rfl⟩ := ok_of_map h
      obtain ⟨hall, hn, hle⟩ := (digitsOnto_eq_ok_iff _ ds (Nat.zero_le _)).1 hread
      exact ⟨n, rfl, ⟨hall, hn⟩, by omega⟩
    · rintro ⟨n, rfl, ⟨hall, hn⟩, hlt⟩
      rw [(digitsOnto_eq_ok_iff _ ds (Nat.zero_le _)).2 ⟨hall, hn, by omega⟩]
      rfl
  cases cs with
  | nil =>
    change Except.error NumeralFault.empty = Except.ok m ↔ _
    simp [not_tells_nil]
  | cons c cs =>
    rw [Octets.ofChars_cons]
    by_cases hc : c = '+'
    · subst hc
      change read _ (0x2B :: Octets.ofChars cs) = _ ↔ _
      simp only [tells_plus_iff]
      cases cs with
      | nil =>
        change Except.error NumeralFault.invalidDigit = Except.ok m ↔ _
        simp
      | cons d cs =>
        obtain ⟨b, t, hoctets, -⟩ := (Octets.Form.of_char d).shape
        have hmore : Octets.ofChars (d :: cs) ≠ [] := by simp [Octets.ofChars_cons, hoctets]
        rw [read, if_pos ⟨rfl, hmore⟩, hdigits]
        simp
    · obtain ⟨b, t, hoctets, -⟩ := (Octets.Form.of_char c).shape
      have hform := Octets.Form.of_char c
      have hplus : Octets.char b ≠ '+' := by
        rw [hoctets] at hform
        exact hform.char_ne (by decide) hc
      simp only [tells_cons_iff hc]
      rw [hoctets, List.cons_append, read, if_neg fun h => hplus h.1,
        if_neg fun h => Int.lt_irrefl 0 h.2.2, ← List.cons_append, ← hoctets,
        ← Octets.ofChars_cons, hdigits]

end Workspaces.Numeral
