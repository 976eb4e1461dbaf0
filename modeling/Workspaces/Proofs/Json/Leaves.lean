-- Strings and numbers as they are read: what is taken is all of the leaf and nothing of what stands
-- behind it, and the same whatever that is.
import Workspaces.Proofs.Except
import Workspaces.Proofs.Json.Grammar

namespace Workspaces.Json

/-! ## Readers -/

variable {α β : Type}

/-- From the text the reader takes one value or none, whatever ends the text. If it takes one,
it takes the whole text. -/
def Settled (read : Reader α) (t : Octets) : Prop :=
  ∃ x? : Option α, ∀ rest, Ends rest → (read (t ++ rest)).toOption = x?.map fun x => (x, rest)

/-- What is made of all that a reader takes. -/
theorem Settled.map {read : Reader α} {read' : Reader β} {t t' : Octets} (f : α → β)
    (h : Settled read t)
    (hread : ∀ rest, read' (t' ++ rest) = (read (t ++ rest)).map fun (x, rest) => (f x, rest)) :
    Settled read' t' := by
  obtain ⟨x?, hx⟩ := h
  refine ⟨x?.map f, fun rest hrest => ?_⟩
  rw [hread, toOption_map, hx rest hrest]
  cases x? <;> rfl

/-- With turns enough, one for each octet, the reader takes one value or none from the text and the
octet that closes it, whatever stands behind. -/
def Closed (read : (turns : Octets) → Reader α) (close : UInt8) (t : Octets) : Prop :=
  ∃ x? : Option α, ∀ turns rest, t.length < turns.length →
    (read turns (t ++ close :: rest)).toOption = x?.map fun x => (x, rest)

namespace Closed

variable {read read' : Octets → Reader α} {close : UInt8} {t u : Octets}

theorem of_end (x : α)
    (h : ∀ b turns rest, read (b :: turns) (t ++ close :: rest) = .ok (x, rest)) :
    Closed read close t := by
  refine ⟨some x, fun turns rest hturns => ?_⟩
  obtain ⟨b, turns, rfl⟩ := List.exists_cons_of_length_pos (Nat.zero_lt_of_lt hturns)
  rw [h]
  rfl

theorem of_error
    (h : ∀ b turns rest, ∃ stop, read (b :: turns) (t ++ close :: rest) = .error stop) :
    Closed read close t := by
  refine ⟨none, fun turns rest hturns => ?_⟩
  obtain ⟨b, turns, rfl⟩ := List.exists_cons_of_length_pos (Nat.zero_lt_of_lt hturns)
  obtain ⟨stop, hstop⟩ := h b turns rest
  rw [hstop]
  rfl

/-- A turn that leaves less to be read. -/
theorem of_turn (hu : Closed read' close u) (hlength : u.length < t.length)
    (h : ∀ b turns rest,
      read (b :: turns) (t ++ close :: rest) = read' turns (u ++ close :: rest)) :
    Closed read close t := by
  obtain ⟨x?, hx⟩ := hu
  refine ⟨x?, fun turns rest hturns => ?_⟩
  obtain ⟨b, turns, rfl⟩ := List.exists_cons_of_length_pos (Nat.zero_lt_of_lt hturns)
  rw [List.length_cons] at hturns
  rw [h]
  exact hx turns rest (by omega)

end Closed

/-! ## Strings -/

/-- The second half of a surrogate pair is taken, or is missing, whatever follows the string. -/
theorem takeLowSurrogate_append (high : Nat) {t : Octets} (h : IsCharacters t) :
    (∃ octets u, IsCharacters u ∧ u.length ≤ t.length ∧
      ∀ rest, takeLowSurrogate high (t ++ 0x22 :: rest) = .ok (octets, u ++ 0x22 :: rest)) ∨
    ∀ rest, ∃ stop, takeLowSurrogate high (t ++ 0x22 :: rest) = .error stop := by
  have hnone : ∀ b u, Octets.char b ≠ '\\' →
      ∃ stop, takeLowSurrogate high (b :: u) = .error stop := by
    intro b u hb
    cases u with
    | nil => exact ⟨_, if_neg hb⟩
    | cons c u => exact ⟨_, if_pos hb⟩
  cases h with
  | nil => exact .inr fun rest => hnone 0x22 rest (by decide)
  | @plain b t _ _ backslash _ => exact .inr fun rest => hnone b (t ++ 0x22 :: rest) backslash
  | @letter b t escape _ =>
    have hletter : Octets.char b ≠ 'u' := by
      intro hb
      rw [hb] at escape
      cases escape
    refine .inr fun rest => ⟨.after .endInHexEscape (t ++ 0x22 :: rest), ?_⟩
    simp only [List.cons_append]
    rw [takeLowSurrogate, if_neg (by decide), if_pos hletter]
  | @code a b c d t digits more =>
    obtain ⟨n, hhex⟩ := takeHex4_of_digits digits
    have htake : ∀ rest,
        takeLowSurrogate high (0x5C :: 0x75 :: a :: b :: c :: d :: t ++ 0x22 :: rest) =
          if 0xDC00 ≤ n ∧ n ≤ 0xDFFF then
            .ok (codePoint (0x10000 + (high - 0xD800) * 0x400 + (n - 0xDC00)), t ++ 0x22 :: rest)
          else .error (.after .loneSurrogate (t ++ 0x22 :: rest)) := by
      intro rest
      simp only [List.cons_append]
      rw [takeLowSurrogate, if_neg (by decide), if_neg (by decide), hhex]
      rfl
    by_cases hlow : 0xDC00 ≤ n ∧ n ≤ 0xDFFF
    · simp only [htake, if_pos hlow]
      exact .inl ⟨_, t, more, by simp; omega, fun _ => rfl⟩
    · simp only [htake, if_neg hlow]
      exact .inr fun _ => ⟨_, rfl⟩

/-- An escape is taken as such, or is none, whatever follows the string. -/
theorem takeEscape_append {t : Octets} (h : IsCharacters (0x5C :: t)) :
    (∃ octets u, IsCharacters u ∧ u.length < t.length ∧
      ∀ rest, takeEscape (t ++ 0x22 :: rest) = .ok (octets, u ++ 0x22 :: rest)) ∨
    ∀ rest, ∃ stop, takeEscape (t ++ 0x22 :: rest) = .error stop := by
  cases h with
  | plain _ _ backslash => exact absurd (by decide) backslash
  | @letter b t escape more =>
    obtain ⟨octet, hoctet⟩ := Option.isSome_iff_exists.1 escape
    refine .inl ⟨[octet], t, more, Nat.lt_succ_self _, fun rest => ?_⟩
    simp only [List.cons_append]
    rw [takeEscape]
    simp only [hoctet]
  | @code a b c d t digits more =>
    obtain ⟨n, hhex⟩ := takeHex4_of_digits digits
    have htake : ∀ rest, takeEscape (0x75 :: a :: b :: c :: d :: t ++ 0x22 :: rest) =
        if 0xDC00 ≤ n ∧ n ≤ 0xDFFF then .error (.after .loneSurrogate (t ++ 0x22 :: rest))
        else if 0xD800 ≤ n ∧ n ≤ 0xDBFF then takeLowSurrogate n (t ++ 0x22 :: rest)
        else .ok (codePoint n, t ++ 0x22 :: rest) := by
      intro rest
      simp only [List.cons_append]
      rw [takeEscape]
      simp only [show letterEscape? (Octets.char 0x75) = none from rfl]
      rw [if_pos (by decide), hhex]
      rfl
    by_cases hlow : 0xDC00 ≤ n ∧ n ≤ 0xDFFF
    · simp only [htake, if_pos hlow]
      exact .inr fun _ => ⟨_, rfl⟩
    · by_cases hhigh : 0xD800 ≤ n ∧ n ≤ 0xDBFF
      · simp only [htake, if_neg hlow, if_pos hhigh]
        rcases takeLowSurrogate_append n more with ⟨octets, u, hu, hlength, hpair⟩ | hnone
        · exact .inl ⟨octets, u, hu, by simp; omega, hpair⟩
        · exact .inr hnone
      · simp only [htake, if_neg hlow, if_neg hhigh]
        exact .inl ⟨codePoint n, t, more, by simp; omega, fun _ => rfl⟩

/-- What is read of the octets of a string does not depend on what follows it. -/
theorem takeStringOnto_closed {t : Octets} (h : IsCharacters t) (done : Octets) :
    Closed (fun turns => takeStringOnto turns done) 0x22 t := by
  -- A pair of surrogates is two escapes, so the induction is on the length.
  induction hlength : t.length using Nat.strongRecOn generalizing t done with
  | _ n ih =>
    have hescape : ∀ {u}, IsCharacters (0x5C :: u) → t = 0x5C :: u →
        Closed (fun turns => takeStringOnto turns done) 0x22 t := by
      rintro u hu rfl
      rw [List.length_cons] at hlength
      rcases takeEscape_append hu with ⟨octets, v, hv, hshorter, htake⟩ | hnone
      · have hmore := ih v.length (by omega) hv (octets.reverse ++ done) rfl
        refine hmore.of_turn (by rw [List.length_cons]; omega) fun b turns rest => ?_
        rw [List.cons_append, takeStringOnto, if_neg (by decide), if_pos (by decide), htake]
      · refine .of_error fun b turns rest => ?_
        obtain ⟨stop, hstop⟩ := hnone rest
        refine ⟨stop, ?_⟩
        rw [List.cons_append, takeStringOnto, if_neg (by decide), if_pos (by decide), hstop]
    cases h with
    | nil => exact .of_end done.reverse fun _ _ _ => rfl
    | @plain b t printable quote backslash more =>
      rw [List.length_cons] at hlength
      have hmore := ih t.length (by omega) more (b :: done) rfl
      refine hmore.of_turn (Nat.lt_succ_self _) fun _ turns rest => ?_
      rw [List.cons_append, takeStringOnto, if_neg quote, if_neg backslash, if_neg printable]
    | letter escape more => exact hescape (.letter escape more) rfl
    | code digits more => exact hescape (.code digits more) rfl

/-- A string is read in the same way whatever follows it. -/
theorem takeString_append {t : Octets} (h : IsCharacters t) :
    ∃ s? : Option String,
      ∀ rest, (takeString (t ++ 0x22 :: rest)).toOption = s?.map fun s => (s, rest) := by
  obtain ⟨octets?, hoctets⟩ := takeStringOnto_closed h []
  refine ⟨octets?.bind Octets.text?, fun rest => ?_⟩
  have htake : (takeStringOnto (0x22 :: (t ++ 0x22 :: rest)) [] (t ++ 0x22 :: rest)).toOption =
      octets?.map fun octets => (octets, rest) :=
    hoctets _ rest (by simp only [List.length_append, List.length_cons]; omega)
  unfold takeString
  cases octets? with
  | none =>
    obtain ⟨stop, hstop⟩ := error_of_toOption htake
    rw [hstop]
    rfl
  | some octets =>
    rw [ok_of_toOption htake, Option.bind_some]
    simp only [bind, Except.bind]
    cases Octets.text? octets <;> rfl

/-! ## Numbers -/

theorem floatOf_settled (negative : Bool) (n : Nat) (power : Int) :
    ∃ x? : Option Number, ∀ t, (floatOf negative n power t).toOption = x?.map fun x => (x, t) := by
  refine ⟨(Binary64.ofDecimal? negative n power).map .float, fun t => ?_⟩
  unfold floatOf
  cases Binary64.ofDecimal? negative n power <;> rfl

variable (negative : Bool) (n : Nat) (power : Int)

theorem digit?_of_ends {b : UInt8} {t : Octets} (h : Ends (b :: t)) : Octets.digit? b = none := by
  have hdigit := h.head.1
  unfold isDigit at hdigit
  simpa using hdigit

theorem takePower_settled (minus : Bool) (e : Nat) {t : Octets} (h : ∀ d ∈ t, isDigit d = true) :
    Settled (takePower negative n power minus e) t := by
  induction t generalizing e with
  | nil =>
    obtain ⟨x?, hx⟩ := floatOf_settled negative n (if minus then power - e else power + e)
    refine ⟨x?, fun rest hrest => ?_⟩
    cases rest with
    | nil => exact hx []
    | cons b rest =>
      rw [List.nil_append, takePower]
      simp only [digit?_of_ends hrest]
      exact hx (b :: rest)
  | cons b t ih =>
    obtain ⟨hb, ht⟩ := List.forall_mem_cons.1 h
    obtain ⟨d, hd⟩ := Option.isSome_iff_exists.1 hb
    by_cases hfits : 10 * e + d ≤ (IntegerRange.signed 32).greatest
    · obtain ⟨x?, hx⟩ := ih (10 * e + d) ht
      refine ⟨x?, fun rest hrest => ?_⟩
      rw [List.cons_append, takePower]
      simp only [hd]
      rw [if_pos hfits]
      exact hx rest hrest
    · refine ⟨if n ≠ 0 ∧ !minus then none else some (.float (.zero negative)), fun rest hrest => ?_⟩
      rw [List.cons_append, takePower]
      simp only [hd]
      rw [if_neg hfits, skipDigits_append ht hrest.startsWithDigit]
      split <;> rfl

theorem takeExponent_settled {s t : Octets} (hs : IsSign s) (ht : IsDigits t) :
    Settled (takeExponent negative n power) (s ++ t) := by
  obtain ⟨b, t, rfl, hb, ht⟩ := ht.cons
  obtain ⟨d, hd⟩ := Option.isSome_iff_exists.1 hb
  have htake : ∀ rest, takeExponent negative n power ((s ++ b :: t) ++ rest) =
      takePower negative n power (s == [0x2D]) d (t ++ rest) := by
    intro rest
    cases hs with
    | none =>
      obtain ⟨hplus, hminus⟩ := no_sign_of_isDigit hb
      simp [takeExponent, hplus, hminus, hd]
    | plus =>
      simp only [List.cons_append, List.nil_append, takeExponent]
      rw [if_pos (show Octets.char 0x2B = '+' by decide)]
      simp only [hd]
      rfl
    | minus =>
      simp only [List.cons_append, List.nil_append, takeExponent]
      rw [if_neg (show ¬ Octets.char 0x2D = '+' by decide),
        if_pos (show Octets.char 0x2D = '-' by decide)]
      simp only [hd]
      rfl
  obtain ⟨x?, hx⟩ := takePower_settled negative n power (s == [0x2D]) d ht
  refine ⟨x?, fun rest hrest => ?_⟩
  rw [htake]
  exact hx rest hrest

theorem takeExponent?_settled {t : Octets} (h : IsExponent t) :
    Settled (takeExponent? negative n power) t := by
  cases h with
  | none =>
    obtain ⟨x?, hx⟩ := floatOf_settled negative n power
    refine ⟨x?, fun rest hrest => ?_⟩
    cases rest with
    | nil => exact hx []
    | cons b rest =>
      obtain ⟨_, _, hsmall, hlarge⟩ := hrest.head
      rw [List.nil_append, takeExponent?, if_neg (by simp [hsmall, hlarge])]
      exact hx (b :: rest)
  | digits letter sign digits =>
    obtain ⟨x?, hx⟩ := takeExponent_settled negative n power sign digits
    refine ⟨x?, fun rest hrest => ?_⟩
    rw [List.cons_append, takeExponent?, if_pos letter]
    exact hx rest hrest

theorem takeWhile_digits {t u : Octets} (h : ∀ d ∈ t, isDigit d = true)
    (hu : startsWithDigit u = false) : (t ++ u).takeWhile isDigit = t := by
  rw [List.takeWhile_append_of_pos h]
  cases u with
  | nil => simp
  | cons b u =>
    have hb : isDigit b = false := hu
    simp [hb]

/-- Of a run of digits some are taken and the others left, whatever follows the run. -/
theorem takeDigits_append (count : Nat) {t : Octets} (h : ∀ d ∈ t, isDigit d = true) :
    ∃ m count' u, (∀ d ∈ u, isDigit d = true) ∧ count + t.length = count' + u.length ∧
      ∀ rest, startsWithDigit rest = false →
        takeDigits n count (t ++ rest) = (m, count', u ++ rest) := by
  induction t generalizing n count with
  | nil =>
    refine ⟨n, count, [], by simp, rfl, fun rest hrest => ?_⟩
    cases rest with
    | nil => rfl
    | cons b rest =>
      have hb : Octets.digit? b = none := by simpa [startsWithDigit, isDigit] using hrest
      rw [List.nil_append, takeDigits]
      simp only [hb]
  | cons b t ih =>
    obtain ⟨hb, ht⟩ := List.forall_mem_cons.1 h
    obtain ⟨d, hd⟩ := Option.isSome_iff_exists.1 hb
    by_cases hfits : 10 * n + d ≤ (IntegerRange.unsigned 64).greatest
    · obtain ⟨m, count', u, hu, hcount, htake⟩ := ih (10 * n + d) (count + 1) ht
      refine ⟨m, count', u, hu, by simp; omega, fun rest hrest => ?_⟩
      rw [List.cons_append, takeDigits]
      simp only [hd]
      rw [if_pos hfits]
      exact htake rest hrest
    · refine ⟨n, count, b :: t, h, rfl, fun rest hrest => ?_⟩
      rw [List.cons_append, takeDigits]
      simp only [hd]
      rw [if_neg hfits]

theorem takeFraction_settled {t u : Octets} (ht : IsDigits t) (hu : IsExponent u) :
    Settled (takeFraction negative n power) (t ++ u) := by
  obtain ⟨m, count, v, hv, hcount, htake⟩ := takeDigits_append n 0 ht.2
  obtain ⟨x?, hx⟩ := takeExponent?_settled negative m (power - count) hu
  refine ⟨x?, fun rest hrest => ?_⟩
  have hstop := hu.startsWithDigit hrest
  have hskip := skipDigits_append hv hstop
  unfold takeFraction
  rw [List.append_assoc, htake _ hstop]
  simp only
  cases v with
  | nil =>
    have hsome : count ≠ 0 := by
      have hpos := List.length_pos_iff.2 ht.1
      simp only [List.length_nil] at hcount
      omega
    rw [List.nil_append, if_neg (by simp [hstop]), if_neg hsome]
    exact hx rest hrest
  | cons b v =>
    have hdigit : startsWithDigit (b :: v ++ (u ++ rest)) = true := hv b List.mem_cons_self
    rw [if_pos hdigit, hskip]
    exact hx rest hrest

theorem whole_settled (dropped : Nat) :
    ∃ x? : Option Number,
      ∀ t, (takeNumberRest.whole negative n dropped t).toOption = x?.map fun x => (x, t) := by
  unfold takeNumberRest.whole
  by_cases hdropped : 0 < dropped
  · simp only [if_pos hdropped]
    exact floatOf_settled negative n dropped
  · simp only [if_neg hdropped]
    cases negative with
    | false => exact ⟨some (.integer n), fun _ => rfl⟩
    | true =>
      by_cases hinteger : n ≠ 0 ∧ (IntegerRange.signed 64).contains (-n)
      · simp only [if_pos hinteger]
        exact ⟨some (.integer (-n)), fun _ => rfl⟩
      · simp only [if_neg hinteger]
        exact floatOf_settled true n 0

theorem takeNumberRest_settled (dropped : Nat) {t u : Octets} (ht : IsFraction t)
    (hu : IsExponent u) : Settled (takeNumberRest negative n dropped) (t ++ u) := by
  cases ht with
  | digits digits =>
    obtain ⟨x?, hx⟩ := takeFraction_settled negative n dropped digits hu
    exact ⟨x?, fun rest hrest => hx rest hrest⟩
  | none =>
    rw [List.nil_append]
    cases hu with
    | none =>
      obtain ⟨x?, hx⟩ := whole_settled negative n dropped
      refine ⟨x?, fun rest hrest => ?_⟩
      cases rest with
      | nil => exact hx []
      | cons b rest =>
        obtain ⟨_, hpoint, hsmall, hlarge⟩ := hrest.head
        rw [List.nil_append, takeNumberRest, if_neg hpoint, if_neg (by simp [hsmall, hlarge])]
        exact hx (b :: rest)
    | @digits e _ _ letter sign digits =>
      have hpoint : Octets.char e ≠ '.' := by rcases letter with h | h <;> simp [h]
      obtain ⟨x?, hx⟩ := takeExponent_settled negative n dropped sign digits
      refine ⟨x?, fun rest hrest => ?_⟩
      rw [List.cons_append, takeNumberRest, if_neg hpoint, if_pos letter]
      exact hx rest hrest

theorem takeNumber_settled {t : Octets} (h : IsUnsigned t) : Settled (takeNumber negative) t := by
  obtain ⟨whole, fraction, exponent⟩ := h
  cases whole with
  | zero =>
    obtain ⟨x?, hx⟩ := takeNumberRest_settled negative 0 0 fraction exponent
    refine ⟨x?, fun rest hrest => ?_⟩
    have hstop := fraction.startsWithDigit exponent hrest
    rw [List.singleton_append, List.cons_append, List.append_assoc, takeNumber]
    simp only [show Octets.digit? 0x30 = some 0 from rfl]
    rw [if_neg (by simp [hstop]), ← List.append_assoc]
    exact hx rest hrest
  | digits first nonzero more =>
    obtain ⟨d, hd⟩ := digit?_of_nonzero first nonzero
    obtain ⟨m, _, v, hv, _, htake⟩ := takeDigits_append (d + 1) 1 more
    obtain ⟨x?, hx⟩ := takeNumberRest_settled negative m v.length fraction exponent
    refine ⟨x?, fun rest hrest => ?_⟩
    have hstop := fraction.startsWithDigit exponent hrest
    simp only [List.cons_append, List.append_assoc]
    rw [takeNumber]
    simp only [hd, htake _ hstop]
    rw [takeWhile_digits hv hstop, skipDigits_append hv hstop, ← List.append_assoc]
    exact hx rest hrest

end Workspaces.Json
