-- Timestamps tell their moments: every moment that is read from a text is one that there is, and
-- what is written for it is read as the same moment, to the nanosecond, within a leap second and
-- beyond the years of four digits too.
import Workspaces.Instant.Timestamp
import Workspaces.Proofs.Text.Numeral

namespace Workspaces

/-! ## Moments that there are -/

/-- The day is one of the calendar, and its year in range. -/
def Date.Real (d : Date) : Prop := Date.ofParts? d.year d.month d.day = some d

instance (d : Date) : Decidable d.Real :=
  inferInstanceAs (Decidable (Date.ofParts? d.year d.month d.day = some d))

/-- There is such a moment. Only within the last second of a minute the nanoseconds can run on. -/
structure Instant.Real (t : Instant) : Prop where
  date : t.date.Real
  second : t.second < 86400
  nano : t.nano < 1000000000 ∨ t.second % 60 = 59 ∧ t.nano < 2000000000

namespace Date

theorem real_of_ofParts? {year : Int} {month day : Nat} {d : Date}
    (h : ofParts? year month day = some d) : d.Real := by
  have hd : d = ⟨year, month, day⟩ := by
    unfold ofParts? at h
    split at h
    · exact (Option.some.inj h).symm
    · cases h
  unfold Real
  rw [hd] at h ⊢
  exact h

theorem real_of_next? {d d' : Date} (h : d.next? = some d') : d'.Real := by
  unfold next? at h
  split at h
  · exact real_of_ofParts? h
  · split at h
    · exact real_of_ofParts? h
    · exact real_of_ofParts? h

theorem real_of_previous? {d d' : Date} (h : d.previous? = some d') : d'.Real := by
  unfold previous? at h
  split at h
  · exact real_of_ofParts? h
  · split at h
    · exact real_of_ofParts? h
    · exact real_of_ofParts? h

theorem daysIn_le (year : Int) (month : Nat) : daysIn year month ≤ 31 := by
  unfold daysIn
  split
  · split <;> decide
  all_goals decide

/-- The year, the month and the day of a real date. -/
theorem Real.bounds {d : Date} (h : d.Real) : -262143 ≤ d.year ∧ d.year ≤ 262142 ∧
    1 ≤ d.month ∧ d.month ≤ 12 ∧ 1 ≤ d.day ∧ d.day ≤ 31 := by
  unfold Real ofParts? at h
  split at h
  · rename_i hparts
    obtain ⟨hyear, hmonth, hlast, hday, hdays⟩ := hparts
    have hdaysIn := daysIn_le d.year d.month
    unfold yearInRange at hyear
    rw [Bool.and_eq_true, decide_eq_true_eq, decide_eq_true_eq] at hyear
    omega
  · cases h

end Date

/-- A clock that is whole minutes off shows the seconds of the minutes of universal time. -/
theorem Instant.real_of_ofLocal? {date : Date} {second nano : Nat} {offset : Int} {t : Instant}
    (hdate : date.Real) (hsecond : second < 86400)
    (hnano : nano < 1000000000 ∨ second % 60 = 59 ∧ nano < 2000000000)
    (hminutes : offset % 60 = 0) (hoffset : offset.natAbs < 86400)
    (h : ofLocal? date second nano offset = some t) : t.Real := by
  unfold ofLocal? at h
  simp only at h
  split at h
  · obtain ⟨d, hd, rfl⟩ := Option.map_eq_some_iff.1 h
    refine ⟨Date.real_of_previous? hd, ?_, ?_⟩
    · change ((second : Int) - offset + 86400).toNat < 86400
      omega
    · change nano < 1000000000 ∨ ((second : Int) - offset + 86400).toNat % 60 = 59 ∧ nano < 2000000000
      omega
  · split at h
    · obtain ⟨d, hd, rfl⟩ := Option.map_eq_some_iff.1 h
      refine ⟨Date.real_of_next? hd, ?_, ?_⟩
      · change ((second : Int) - offset - 86400).toNat < 86400
        omega
      · change nano < 1000000000 ∨ ((second : Int) - offset - 86400).toNat % 60 = 59 ∧ nano < 2000000000
        omega
    · obtain rfl := Option.some.inj h
      refine ⟨hdate, ?_, ?_⟩
      · change ((second : Int) - offset).toNat < 86400
        omega
      · change nano < 1000000000 ∨ ((second : Int) - offset).toNat % 60 = 59 ∧ nano < 2000000000
        omega

namespace Timestamp

/-! ## Parts that are read -/

theorem takePart_bounds {least greatest n : Nat} {s rest : List Char}
    (h : takePart least greatest s = .ok (n, rest)) : least ≤ n ∧ n ≤ greatest := by
  obtain ⟨⟨m, u⟩, _, hm⟩ := ok_of_bind h
  simp only at hm
  split at hm
  · rename_i hbounds
    obtain ⟨rfl, _⟩ := Prod.mk.inj (Except.ok.inj hm)
    exact hbounds
  · cases hm

/-- A number is what its digits tell. -/
theorem takeNumber_spelled {width n : Nat} {s rest : List Char}
    (h : takeNumber width s = .ok (n, rest)) :
    ∃ ds, s = ds ++ rest ∧ ds.length ≤ width ∧ (∀ c ∈ ds, c.isDigit = true) ∧
      n = Nat.ofDigitChars 10 ds 0 := by
  unfold takeNumber at h
  split at h
  · cases h
  · rename_i c u
    split at h
    · cases h
    · simp only at h
      split at h
      · obtain ⟨rfl, rfl⟩ := Prod.mk.inj (Except.ok.inj h)
        have hfront : ((c :: u).take width).takeWhile isDigit <+: (c :: u).take width :=
          List.takeWhile_prefix _
        refine ⟨((c :: u).take width).takeWhile isDigit, ?_, ?_, ?_, rfl⟩
        · exact (List.prefix_iff_eq_append.1 (hfront.trans (List.take_prefix _ _))).symm
        · exact Nat.le_trans hfront.length_le (List.length_take_le _ _)
        · exact List.all_eq_true.1 List.all_takeWhile
      · cases h

theorem takeFraction_lt {n : Nat} {s rest : List Char} (h : takeFraction s = .ok (n, rest)) :
    n < 1000000000 := by
  unfold takeFraction at h
  split at h
  · rename_i u
    obtain ⟨⟨m, after⟩, hm, hn⟩ := ok_of_bind h
    obtain ⟨rfl, _⟩ := Prod.mk.inj (Except.ok.inj hn)
    obtain ⟨ds, rfl, hlength, hdigits, rfl⟩ := takeNumber_spelled hm
    have hlt := Numeral.ofDigitChars_lt hdigits
    have hused : (ds ++ after).length - after.length = ds.length := by
      rw [List.length_append]
      omega
    calc Nat.ofDigitChars 10 ds 0 * Decimal.power (9 - ((ds ++ after).length - after.length))
        = Nat.ofDigitChars 10 ds 0 * 10 ^ (9 - ds.length) := by rw [hused]; rfl
      _ < 10 ^ ds.length * 10 ^ (9 - ds.length) :=
          Nat.mul_lt_mul_of_pos_right hlt (Nat.pow_pos (by decide))
      _ = 10 ^ 9 := by rw [← Nat.pow_add, Nat.add_sub_cancel' hlength]
  · obtain ⟨rfl, _⟩ := Prod.mk.inj (Except.ok.inj h)
    decide

theorem takeHoursMinutes_minutes {n : Nat} {s rest : List Char}
    (h : takeHoursMinutes s = .ok (n, rest)) : n % 60 = 0 := by
  obtain ⟨⟨hours, i, u⟩, _, hu⟩ := ok_of_bind h
  obtain ⟨⟨m, j, v⟩, _, hv⟩ := ok_of_bind hu
  simp only at hv
  split at hv
  · cases hv
  · obtain ⟨rfl, _⟩ := Prod.mk.inj (Except.ok.inj hv)
    omega

theorem takeOffset_minutes {n : Int} {s rest : List Char} (h : takeOffset s = .ok (n, rest)) :
    n % 60 = 0 := by
  have hsigned : ∀ {f : Nat → Int} {u}, (∀ m, m % 60 = 0 → f m % 60 = 0) →
      (takeHoursMinutes u).map (fun r => (f r.1, r.2)) = .ok (n, rest) → n % 60 = 0 := by
    intro f u hf hu
    obtain ⟨⟨m, v⟩, hm, hn⟩ := ok_of_map hu
    obtain ⟨rfl, _⟩ := Prod.mk.inj hn
    exact hf m (takeHoursMinutes_minutes hm)
  unfold takeOffset at h
  split at h
  · cases h
  · split at h
    · obtain ⟨rfl, _⟩ := Prod.mk.inj (Except.ok.inj h)
      rfl
    · split at h
      · obtain ⟨rfl, _⟩ := Prod.mk.inj (Except.ok.inj h)
        rfl
      · split at h
        · exact hsigned (f := fun m => (m : Int)) (fun m hm => by omega) h
        · split at h
          · exact hsigned (f := fun m => -(m : Int)) (fun m hm => by omega) h
          · cases h

/-- A moment that is read from a text is one that there is. -/
theorem real_of_read {s : String} {t : Instant} (h : read s = .ok t) : t.Real := by
  unfold read at h
  obtain ⟨⟨year, s⟩, _, h⟩ := ok_of_bind h
  obtain ⟨s, _, h⟩ := ok_of_bind h
  obtain ⟨⟨month, s⟩, _, h⟩ := ok_of_bind h
  obtain ⟨s, _, h⟩ := ok_of_bind h
  obtain ⟨⟨day, s⟩, _, h⟩ := ok_of_bind h
  obtain ⟨s, _, h⟩ := ok_of_bind h
  obtain ⟨⟨hour, s⟩, hhour, h⟩ := ok_of_bind h
  obtain ⟨s, _, h⟩ := ok_of_bind h
  obtain ⟨⟨minute, s⟩, hminute, h⟩ := ok_of_bind h
  obtain ⟨s, _, h⟩ := ok_of_bind h
  obtain ⟨⟨second, s⟩, hsecond, h⟩ := ok_of_bind h
  obtain ⟨⟨nano, s⟩, hnano, h⟩ := ok_of_bind h
  obtain ⟨⟨offset, s⟩, hoffset, h⟩ := ok_of_bind h
  have hminutes := takeOffset_minutes hoffset
  have hfraction := takeFraction_lt hnano
  have hhours := (takePart_bounds hhour).2
  have hlast := (takePart_bounds hminute).2
  have hleap := (takePart_bounds hsecond).2
  simp only at h
  by_cases hrest : Text.trimStart s = []
  · rw [if_neg (fun hne => hne hrest)] at h
    split at h
    · rename_i date hdate
      by_cases hfar : 86400 ≤ offset.natAbs
      · rw [if_pos hfar] at h
        obtain ⟨_, herror, _⟩ := ok_of_bind h
        cases herror
      · rw [if_neg hfar] at h
        split at h
        · rename_i t' ht
          obtain rfl := Except.ok.inj h
          apply Instant.real_of_ofLocal? (Date.real_of_ofParts? hdate) _ _ hminutes
            (Nat.lt_of_not_le hfar) ht
          · split <;> omega
          · split <;> omega
        · cases h
    · cases h
  · rw [if_pos hrest] at h
    obtain ⟨_, herror, _⟩ := ok_of_bind h
    cases herror

/-! ## Parts that are written -/

theorem isBlank_of_isDigit {c : Char} (h : c.isDigit = true) : Text.isBlank c = false := by
  have hrange : 48 ≤ c.toNat ∧ c.toNat ≤ 57 := Char.isDigit_iff_toNat.1 h
  unfold Text.isBlank
  simp
  omega

/-- No blank stands in front. -/
theorem trimStart_cons {c : Char} (h : Text.isBlank c = false) (s : List Char) :
    Text.trimStart (c :: s) = c :: s := by
  unfold Text.trimStart
  rw [List.dropWhile_cons_of_neg (by simp [h])]

theorem isDigit_of_mem_padded {width n : Nat} {c : Char} (h : c ∈ Instant.padded width n) :
    c.isDigit = true := by
  obtain hzero | hdigit := List.mem_append.1 h
  · rw [List.eq_of_mem_replicate hzero]
    decide
  · exact Nat.isDigit_of_mem_toDigits (by decide) (by decide) hdigit

theorem padded_starts (width n : Nat) :
    ∃ c cs, Instant.padded width n = c :: cs ∧ c.isDigit = true := by
  cases h : Instant.padded width n with
  | nil => exact absurd (List.append_eq_nil_iff.1 h).2 Nat.toDigits_ne_nil
  | cons c cs => exact ⟨c, cs, rfl, isDigit_of_mem_padded (h ▸ List.mem_cons_self)⟩

theorem ofDigitChars_padded (width n : Nat) :
    Nat.ofDigitChars 10 (Instant.padded width n) 0 = n := by
  unfold Instant.padded
  rw [Nat.ofDigitChars_append, Nat.ofDigitChars_replicate_zero, Nat.mul_zero,
    Nat.ofDigitChars_ten_toDigits]

theorem length_padded {width n : Nat} (hwidth : 0 < width) (h : n < 10 ^ width) :
    (Instant.padded width n).length = width := by
  have hdigits := (Nat.length_toDigits_le_iff (by decide) hwidth).2 h
  unfold Instant.padded
  simp only
  rw [List.length_append, List.length_replicate]
  omega

theorem trimStart_padded (width n : Nat) (s : List Char) :
    Text.trimStart (Instant.padded width n ++ s) = Instant.padded width n ++ s := by
  obtain ⟨c, cs, hpadded, hc⟩ := padded_starts width n
  rw [hpadded, List.cons_append, trimStart_cons (isBlank_of_isDigit hc)]

/-- Digits are taken as far as they go, if they are not too many. -/
theorem takeNumber_padded {width pad n : Nat} {mark : Char} (rest : List Char)
    (hlength : (Instant.padded pad n).length ≤ width) (hn : n < 9223372036854775808)
    (hmark : isDigit mark = false) :
    takeNumber width (Instant.padded pad n ++ mark :: rest) = .ok (n, mark :: rest) := by
  have hdigits : ∀ c ∈ Instant.padded pad n, isDigit c = true := fun c => isDigit_of_mem_padded
  have hend : ∀ k, ((mark :: rest).take k).takeWhile isDigit = [] := by
    intro k
    cases k with
    | zero => rfl
    | succ k => exact List.takeWhile_cons_of_neg (Bool.not_eq_true _ ▸ hmark)
  have htaken : ((Instant.padded pad n ++ mark :: rest).take width).takeWhile isDigit =
      Instant.padded pad n := by
    rw [List.take_append, List.take_of_length_le hlength,
      List.takeWhile_append_of_pos hdigits, hend, List.append_nil]
  have hvalue : digitsValue (Instant.padded pad n) = n := ofDigitChars_padded pad n
  have hrange : (IntegerRange.signed 64).contains n = true := by
    unfold IntegerRange.contains IntegerRange.signed
    simp
    omega
  obtain ⟨c, cs, hpadded, hc⟩ := padded_starts pad n
  unfold takeNumber
  split
  · rename_i hnil
    rw [hpadded] at hnil
    cases hnil
  · rename_i d u hcons
    have hd : isDigit d = true := by
      rw [hpadded] at hcons
      exact (List.cons.inj hcons).1 ▸ hc
    simp only
    rw [htaken, hvalue, List.drop_left, if_neg (by simp [hd]), if_pos hrange]

theorem takePart_padded {least greatest n : Nat} {mark : Char} (rest : List Char)
    (hn : n < 100) (hleast : least ≤ n) (hgreatest : n ≤ greatest)
    (hmark : isDigit mark = false) :
    takePart least greatest (Instant.padded 2 n ++ mark :: rest) = .ok (n, mark :: rest) := by
  have hlength : (Instant.padded 2 n).length = 2 := length_padded (by decide) hn
  have htaken := takeNumber_padded rest (Nat.le_of_eq hlength) (by omega) hmark
  unfold takePart
  rw [trimStart_padded, htaken]
  simp [bind, Except.bind, hleast, hgreatest]

theorem takeMark_cons {mark : Char} (h : Text.isBlank mark = false) (rest : List Char) :
    takeMark mark (mark :: rest) = .ok rest := by
  unfold takeMark
  rw [trimStart_cons h]
  simp

theorem takeYear_yearChars {year : Int} (hleast : -262143 ≤ year) (hgreatest : year ≤ 262142)
    (rest : List Char) :
    takeYear (Instant.yearChars year ++ '-' :: rest) = .ok (year, '-' :: rest) := by
  have hrange : (IntegerRange.signed 32).contains year = true := by
    unfold IntegerRange.contains IntegerRange.signed
    simp
    omega
  unfold Instant.yearChars
  split
  · have hlength : (Instant.padded 4 year.toNat).length = 4 :=
      length_padded (by decide) (by omega)
    have htaken : takeNumber 4 (Instant.padded 4 year.toNat ++ '-' :: rest) =
        .ok (year.toNat, '-' :: rest) :=
      takeNumber_padded rest (Nat.le_of_eq hlength) (by omega) rfl
    obtain ⟨c, cs, hpadded, hc⟩ := padded_starts 4 year.toNat
    have hsign : ∀ sign u, sign.isDigit = false →
        Instant.padded 4 year.toNat ++ '-' :: rest ≠ sign :: u := by
      intro sign u hplain h
      rw [hpadded] at h
      rw [← (List.cons.inj h).1, hc] at hplain
      cases hplain
    unfold takeYear
    simp only
    rw [trimStart_padded]
    split
    · rename_i h
      exact absurd h (hsign _ _ rfl)
    · rename_i h
      exact absurd h (hsign _ _ rfl)
    · have hyear : (year.toNat : Int) = year := by omega
      simp only [htaken, Except.map, bind, Except.bind, hyear, hrange, ↓reduceIte]
  · have htaken : takeNumber (Instant.padded 4 year.natAbs ++ '-' :: rest).length
        (Instant.padded 4 year.natAbs ++ '-' :: rest) = .ok (year.natAbs, '-' :: rest) :=
      takeNumber_padded rest (by rw [List.length_append]; omega) (by omega) rfl
    unfold takeYear
    simp only
    by_cases hnegative : year < 0
    · have hyear : -(year.natAbs : Int) = year := by omega
      rw [if_pos hnegative, List.cons_append, trimStart_cons (by decide)]
      simp only [htaken, Except.map, bind, Except.bind, hyear, hrange, ↓reduceIte]
    · have hyear : (year.natAbs : Int) = year := by omega
      rw [if_neg hnegative, List.cons_append, trimStart_cons (by decide)]
      simp only [htaken, Except.map, bind, Except.bind, hyear, hrange, ↓reduceIte]

theorem takeFraction_padded {places n : Nat} {mark : Char} (rest : List Char)
    (hplaces : 0 < places) (hnine : places ≤ 9) (hn : n < 10 ^ places)
    (hmark : isDigit mark = false) :
    takeFraction ('.' :: (Instant.padded places n ++ mark :: rest)) =
      .ok (n * 10 ^ (9 - places), mark :: rest) := by
  have hlength := length_padded hplaces hn
  have hbig : 10 ^ places ≤ 10 ^ 9 := Nat.pow_le_pow_right (by decide) hnine
  have htaken : takeNumber 9 (Instant.padded places n ++ mark :: rest) = .ok (n, mark :: rest) :=
    takeNumber_padded rest (by omega) (by omega) hmark
  have hused : (Instant.padded places n ++ mark :: rest).length - (mark :: rest).length =
      places := by
    rw [List.length_append, hlength]
    omega
  unfold takeFraction
  simp only [htaken, bind, Except.bind, hused]
  rw [List.dropWhile_cons_of_neg (Bool.not_eq_true _ ▸ hmark)]
  rfl

/-- As few places as are exact lose nothing. -/
theorem takeFraction_fractionChars (nano : Nat) (h : nano < 1000000000) (rest : List Char) :
    takeFraction (Instant.fractionChars nano ++ 'Z' :: rest) = .ok (nano, 'Z' :: rest) := by
  unfold Instant.fractionChars
  split
  · rename_i hzero
    rw [hzero]
    rfl
  · split
    · rw [List.cons_append, takeFraction_padded rest (by decide) (by decide) (by omega) rfl]
      congr 2
      omega
    · split
      · rw [List.cons_append, takeFraction_padded rest (by decide) (by decide) (by omega) rfl]
        congr 2
        omega
      · rw [List.cons_append, takeFraction_padded rest (by decide) (by decide) (by omega) rfl]
        congr 2
        omega

/-- Behind the seconds stands no digit. -/
theorem fractionChars_starts (nano : Nat) (rest : List Char) :
    ∃ mark u, Instant.fractionChars nano ++ 'Z' :: rest = mark :: u ∧ isDigit mark = false := by
  unfold Instant.fractionChars
  split
  · exact ⟨'Z', _, rfl, rfl⟩
  · split
    · exact ⟨'.', _, rfl, rfl⟩
    · split
      · exact ⟨'.', _, rfl, rfl⟩
      · exact ⟨'.', _, rfl, rfl⟩

/-! ## Whole timestamps -/

/-- A clock of universal time shows the moment itself. -/
theorem ofLocal?_zero {second : Nat} (h : second < 86400) (date : Date) (nano : Nat) :
    Instant.ofLocal? date second nano 0 = some ⟨date, second, nano⟩ := by
  unfold Instant.ofLocal?
  simp only
  rw [if_neg (by omega), if_neg (by omega)]
  simp

/-- The timestamp of a moment is read as that moment. -/
theorem read_text {t : Instant} (h : t.Real) : read t.text = .ok t := by
  obtain ⟨hleast, hgreatest, hmonth, htwelve, hday, hlast⟩ := h.date.bounds
  have hsecond := h.second
  have hnano := h.nano
  have hdate : Date.ofParts? t.date.year t.date.month t.date.day = some t.date := h.date
  obtain ⟨mark, u, hmark, hdigit⟩ := fractionChars_starts (t.nano % 1000000000) []
  have hfraction := takeFraction_fractionChars (t.nano % 1000000000) (by omega) []
  unfold read Instant.text Instant.chars
  simp only [String.toList_ofList, List.append_assoc, List.cons_append, bind,
    Except.bind]
  rw [takeYear_yearChars hleast hgreatest]
  simp only
  rw [takeMark_cons (by decide)]
  simp only
  rw [takePart_padded _ (by omega) hmonth htwelve rfl]
  simp only
  rw [takeMark_cons (by decide)]
  simp only
  rw [takePart_padded _ (by omega) hday hlast rfl]
  simp only
  rw [if_pos (.inl trivial)]
  simp only
  rw [takePart_padded _ (by omega) (Nat.zero_le _) (by omega) rfl]
  simp only
  rw [takeMark_cons (by decide)]
  simp only
  rw [takePart_padded _ (by omega) (Nat.zero_le _) (by omega) rfl]
  simp only
  rw [takeMark_cons (by decide)]
  simp only
  rw [hmark, takePart_padded _ (by omega) (Nat.zero_le _) (by omega) hdigit]
  simp only
  rw [← hmark, hfraction]
  simp only
  have hoffset : takeOffset (Text.trimStart ['Z']) = .ok (0, []) := rfl
  -- The sixtieth second is the last second of the minute again, with a billion nanoseconds more.
  have hclock : 3600 * (t.second / 3600) + 60 * (t.second / 60 % 60) +
      (if t.second % 60 + t.nano / 1000000000 = 60 then 59
        else t.second % 60 + t.nano / 1000000000) = t.second := by
    split <;> omega
  have hrest : (if t.second % 60 + t.nano / 1000000000 = 60 then
      t.nano % 1000000000 + 1000000000 else t.nano % 1000000000) = t.nano := by
    split <;> omega
  rw [hoffset, hdate]
  simp only [hclock, hrest, ofLocal?_zero hsecond]
  rfl

end Timestamp

end Workspaces
