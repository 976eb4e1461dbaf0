-- Whatever the grammar takes for a value is passed over to its end, with nothing of what stands
-- behind it.
import Mathlib.Data.List.DropRight
import Workspaces.Proofs.Json.Grammar

namespace Workspaces.Json

/-! ## Strings -/

theorem skipStringRest_append {t : Octets} (h : IsCharacters t) (turns rest : Octets)
    (hturns : t.length < turns.length) : skipStringRest turns (t ++ 0x22 :: rest) = .ok rest := by
  induction h generalizing turns with
  | nil =>
    obtain ⟨_, turns, rfl⟩ := List.exists_cons_of_length_pos hturns
    rfl
  | plain printable quote backslash _ ih =>
    obtain ⟨_, turns, rfl⟩ := List.exists_cons_of_length_pos (Nat.zero_lt_of_lt hturns)
    rw [List.cons_append, skipStringRest, if_neg quote, if_neg backslash, if_neg printable]
    exact ih turns (by simpa using hturns)
  | letter escape _ ih =>
    obtain ⟨_, turns, rfl⟩ := List.exists_cons_of_length_pos (Nat.zero_lt_of_lt hturns)
    have hskip : ∀ u, skipEscape (_ :: u) = .ok u := fun u => if_pos escape
    rw [List.cons_append, List.cons_append, skipStringRest, if_neg (by decide), if_pos (by decide),
      hskip]
    exact ih turns (by simp at hturns; omega)
  | code digits _ ih =>
    obtain ⟨_, turns, rfl⟩ := List.exists_cons_of_length_pos (Nat.zero_lt_of_lt hturns)
    obtain ⟨n, hhex⟩ := takeHex4_of_digits digits
    simp only [List.cons_append]
    rw [skipStringRest, if_neg (by decide), if_pos (by decide), skipEscape, if_neg (by decide),
      if_pos (by decide), hhex]
    exact ih turns (by simp at hturns; omega)

theorem skipString_append {t : Octets} (h : IsCharacters t) (rest : Octets) :
    skipString (t ++ 0x22 :: rest) = .ok rest := by
  apply skipStringRest_append h
  simp only [List.length_append, List.length_cons]
  omega

/-! ## Numbers -/

theorem skipExponent_append {s t : Octets} (hs : IsSign s) (ht : IsDigits t) {rest : Octets}
    (hrest : Ends rest) : skipExponent (s ++ (t ++ rest)) = .ok rest := by
  obtain ⟨b, t, rfl, hb, ht⟩ := ht.cons
  have hplain : (if isDigit b = true then Except.ok (skipDigits (t ++ rest)) else
      .error (Stop.after .badNumber (t ++ rest))) = Except.ok rest := by
    rw [if_pos hb, skipDigits_append ht hrest.startsWithDigit]
  cases hs with
  | none =>
    obtain ⟨hplus, hminus⟩ := no_sign_of_isDigit hb
    simpa [skipExponent, hplus, hminus] using hplain
  | plus | minus => exact hplain

theorem skipExponent?_append {t : Octets} (h : IsExponent t) {rest : Octets} (hrest : Ends rest) :
    skipExponent? (t ++ rest) = .ok rest := by
  cases h with
  | none =>
    cases rest with
    | nil => rfl
    | cons b rest =>
      obtain ⟨_, _, hsmall, hlarge⟩ := hrest.head
      exact if_neg (by simp [hsmall, hlarge])
  | digits letter sign digits =>
    rw [List.cons_append, List.append_assoc, skipExponent?, if_pos letter]
    exact skipExponent_append sign digits hrest

theorem skipNumberRest_append {t u rest : Octets} (ht : IsFraction t) (hu : IsExponent u)
    (hrest : Ends rest) : skipNumberRest (t ++ (u ++ rest)) = .ok rest := by
  cases ht with
  | none =>
    have hskip : skipExponent? (u ++ rest) = .ok rest := skipExponent?_append hu hrest
    have hhead := hu.head hrest
    rw [List.nil_append]
    generalize u ++ rest = v at hskip hhead
    cases v with
    | nil => exact hskip
    | cons b v =>
      rw [skipNumberRest, if_neg (hhead b rfl).2]
      exact hskip
  | digits digits =>
    obtain ⟨b, t, rfl, hb, ht⟩ := digits.cons
    have hdigits : skipDigits (b :: (t ++ (u ++ rest))) = u ++ rest :=
      skipDigits_append digits.2 (hu.startsWithDigit hrest)
    simp only [List.cons_append]
    rw [skipNumberRest, if_pos (by decide), if_pos (show startsWithDigit (b :: _) = true from hb),
      hdigits]
    exact skipExponent?_append hu hrest

theorem skipNumber_append {t rest : Octets} (h : IsUnsigned t) (hrest : Ends rest) :
    skipNumber (t ++ rest) = .ok rest := by
  obtain ⟨whole, fraction, exponent⟩ := h
  have hstop := fraction.startsWithDigit exponent hrest
  simp only [List.append_assoc]
  cases whole with
  | zero =>
    rw [List.singleton_append, skipNumber]
    simp only [show Octets.digit? 0x30 = some 0 from rfl]
    rw [if_neg (by simp [hstop])]
    exact skipNumberRest_append fraction exponent hrest
  | digits first nonzero more =>
    obtain ⟨n, hn⟩ := digit?_of_nonzero first nonzero
    rw [List.cons_append, skipNumber]
    simp only [hn]
    rw [skipDigits_append more hstop]
    exact skipNumberRest_append fraction exponent hrest

/-! ## Entries -/

/-- What is left to skip behind the start of a value: all of the value and of the open brackets
around it, or only of these. -/
def resume (turns : Octets) (outer : List Bracket) :
    Option Bracket × Octets → Except Stop Octets
  | (some bracket, rest) => skipEntries turns false (bracket :: outer) rest
  | (none, rest) => skipEntries turns true outer rest

theorem skipStart_append {t : Octets} (h : IsBlanks t) (u : Octets) :
    skipStart (t ++ u) = skipStart u := by
  unfold skipStart
  rw [skipBlanks_append h]

theorem skipName_skipBlanks (bracket : Bracket) (t : Octets) :
    (skipName bracket (skipBlanks t)).bind skipStart = (skipName bracket t).bind skipStart := by
  have hblanks : skipBlanks (skipBlanks t) = skipBlanks t := List.dropWhile_idempotent _ t
  cases bracket with
  | list =>
    change skipStart (skipBlanks t) = skipStart t
    unfold skipStart
    rw [hblanks]
  | object =>
    unfold skipName
    simp only [hblanks]

/-- A turn that does not close a bracket skips the start of an entry. -/
theorem skipEntries_entry {turns t u rest : Octets} {later : Bool} {b c : UInt8}
    {bracket : Bracket} {outer : List Bracket} (h : Leads later t) (hu : skipBlanks u = c :: rest)
    (hclose : Octets.char c ≠ bracket.close) :
    skipEntries (b :: turns) later (bracket :: outer) (t ++ u) =
      ((skipName bracket u).bind skipStart).bind (resume turns (bracket :: outer)) := by
  cases h with
  | first =>
    have hname := skipName_skipBlanks bracket u
    rw [hu] at hname
    rw [List.nil_append, skipEntries, hu]
    simp only [hclose, Bool.false_eq_true, false_and, if_false, hname]
    generalize (skipName bracket u).bind skipStart = r
    rcases r with _ | ⟨_ | _, _⟩ <;> rfl
  | comma blanks =>
    have hcomma : skipBlanks (0x2C :: u) = 0x2C :: u := skipBlanks_cons (by decide) u
    have hopen : Octets.char 0x2C ≠ bracket.close := by cases bracket <;> decide
    rw [List.append_assoc, List.singleton_append, skipEntries, skipBlanks_append blanks, hcomma]
    simp only
    rw [if_neg hopen, if_neg (by decide)]
    simp only [if_true]
    generalize (skipName bracket u).bind skipStart = r
    rcases r with _ | ⟨_ | _, _⟩ <;> rfl

/-- A turn that closes a bracket. -/
theorem skipEntries_close {turns t : Octets} {b : UInt8} (later : Bool) (bracket : Bracket)
    (outer : List Bracket) (h : IsBlanks t) (rest : Octets) :
    skipEntries (b :: turns) later (bracket :: outer) (t ++ bracket.closing :: rest) =
      skipEntries turns true outer rest := by
  have hclosing : isBlank bracket.closing = false := by cases bracket <;> decide
  have hclose : Octets.char bracket.closing = bracket.close := by cases bracket <;> decide
  rw [skipEntries, skipBlanks_append h, skipBlanks_cons hclosing]
  exact if_pos hclose

/-- The start of an entry is followed by that of its value. -/
theorem IsLabel.skip {bracket : Bracket} {name t : Octets} (h : IsLabel bracket name t)
    {u : Octets} (hu : IsBlanks u) (rest : Octets) :
    (skipName bracket (u ++ (t ++ rest))).bind skipStart = skipStart rest := by
  cases h with
  | item => exact skipStart_append hu rest
  | member string blanks =>
    obtain ⟨characters⟩ := string
    unfold skipName
    simp only [List.append_assoc, List.cons_append, List.nil_append]
    rw [skipBlanks_append hu, skipBlanks_cons (by decide)]
    simp only
    rw [if_pos (by decide), skipString_append characters]
    change (takeColon _).bind skipStart = _
    unfold takeColon
    rw [skipBlanks_append blanks, skipBlanks_cons (by decide)]
    rfl

/-! ## Values -/

theorem skipLeaf_of_isDigit {b : UInt8} (h : isDigit b = true) (rest : Octets) :
    skipLeaf b rest = skipNumber (b :: rest) := by
  have hmem := mem_digitOctets h
  simp only [digitOctets, List.mem_cons, List.not_mem_nil, or_false] at hmem
  rcases hmem with rfl | rfl | rfl | rfl | rfl | rfl | rfl | rfl | rfl | rfl <;> rfl

theorem skipStart_of_isDigit {b : UInt8} (h : isDigit b = true) (t : Octets) :
    skipStart (b :: t) = (skipNumber (b :: t)).map fun rest => (none, rest) := by
  have hopens : ∀ b ∈ digitOctets, Octets.char b ≠ '[' ∧ Octets.char b ≠ '{' := by
    decide +kernel
  obtain ⟨hlist, hobject⟩ := hopens b (mem_digitOctets h)
  unfold skipStart
  rw [skipBlanks_cons (starts_of_isDigit h).1]
  simp only
  rw [if_neg hlist, if_neg hobject, skipLeaf_of_isDigit h]

/-- A number is skipped as a whole. -/
theorem IsNumber.skip {t rest : Octets} (h : IsNumber t) (hrest : Ends rest) :
    skipStart (t ++ rest) = .ok (none, rest) := by
  cases h with
  | plain unsigned =>
    have hskip := skipNumber_append unsigned hrest
    obtain ⟨b, u, rfl, hb⟩ := unsigned.starts
    rw [List.cons_append, skipStart_of_isDigit hb, ← List.cons_append, hskip]
    rfl
  | minus unsigned =>
    change (skipNumber (_ ++ rest)).map _ = _
    rw [skipNumber_append unsigned hrest]
    rfl

/-- What is true of every part of a text: with turns enough, one for each octet, it is skipped, and
no more turns are taken than it has octets. The first octet of a value takes no turn. -/
def Skips : Part → Octets → Prop
  | .value, t => ∀ turns outer rest, Ends rest → t.length ≤ turns.length + 1 →
      ∃ turns', turns.length + 1 ≤ turns'.length + t.length ∧
        (skipStart (t ++ rest)).bind (resume turns outer) = skipEntries turns' true outer rest
  | .entry bracket _, t => ∀ turns outer later before rest, Leads later before → Ends rest →
      t.length ≤ turns.length →
      ∃ turns', turns.length ≤ turns'.length + t.length ∧
        skipEntries turns later (bracket :: outer) (before ++ (t ++ rest)) =
          skipEntries turns' true (bracket :: outer) rest
  | .inside bracket _, t => ∀ turns outer rest, t.length < turns.length →
      ∃ turns', turns.length ≤ turns'.length + t.length + 1 ∧
        skipEntries turns false (bracket :: outer) (t ++ bracket.closing :: rest) =
          skipEntries turns' true outer rest
  | .more bracket _, t => ∀ turns outer rest, t.length < turns.length →
      ∃ turns', turns.length ≤ turns'.length + t.length + 1 ∧
        skipEntries turns true (bracket :: outer) (t ++ bracket.closing :: rest) =
          skipEntries turns' true outer rest

/-- An entry does not begin as its bracket ends. -/
theorem Spells.opens {bracket : Bracket} {e : Entry} {t : Octets}
    (h : Spells (.entry bracket e) t) (rest : Octets) :
    ∃ c u, skipBlanks (t ++ rest) = c :: u ∧ Octets.char c ≠ bracket.close := by
  cases h with
  | entry before label behind spelled =>
    simp only [List.append_assoc]
    rw [skipBlanks_append before]
    cases label with
    | item =>
      obtain ⟨c, u, rfl, hblank, hclose⟩ := spelled.starts
      refine ⟨c, u ++ rest, ?_, hclose⟩
      rw [List.nil_append, skipBlanks_append behind, List.cons_append, skipBlanks_cons hblank]
    | member string _ =>
      obtain ⟨_⟩ := string
      exact ⟨0x22, _, skipBlanks_cons (by decide) _, by decide⟩

theorem Spells.skips {part : Part} {t : Octets} (h : Spells part t) : Skips part t := by
  induction h with
  | null | truth | falsehood =>
    intro turns outer rest hrest hturns
    exact ⟨turns, by simp, rfl⟩
  | number number =>
    intro turns outer rest hrest hturns
    obtain ⟨b, u, rfl, _⟩ := (Spells.number number).starts
    refine ⟨turns, by simp, ?_⟩
    rw [number.skip hrest]
    rfl
  | string string =>
    intro turns outer rest hrest hturns
    obtain ⟨characters⟩ := string
    refine ⟨turns, by simp, ?_⟩
    rw [List.cons_append, List.append_assoc]
    change ((skipString _).map _).bind _ = _
    rw [List.singleton_append, skipString_append characters]
    rfl
  | @bracket bracket es t inside ih =>
    intro turns outer rest hrest hturns
    obtain ⟨turns', hleft, hskip⟩ := ih turns outer rest (by simp at hturns; omega)
    refine ⟨turns', by simp; omega, ?_⟩
    rw [← hskip, List.cons_append, List.append_assoc]
    cases bracket <;> rfl
  | @entry bracket name value t u v before label behind spelled ih =>
    intro turns outer later lead rest hlead hrest hturns
    obtain ⟨c, w, hopens, hclose⟩ := (Spells.entry before label behind spelled).opens rest
    have hpos := (Spells.entry before label behind spelled).length_pos
    simp only [List.length_append] at hturns hpos
    obtain ⟨b, turns, rfl⟩ := List.exists_cons_of_length_pos (show 0 < turns.length by omega)
    rw [List.length_cons] at hturns
    obtain ⟨turns', hleft, hskip⟩ := ih turns (bracket :: outer) rest hrest (by omega)
    refine ⟨turns', by simp; omega, ?_⟩
    rw [skipEntries_entry hlead hopens hclose]
    simp only [List.append_assoc]
    rw [label.skip before, skipStart_append behind, hskip]
  | @blank bracket t blanks =>
    intro turns outer rest hturns
    obtain ⟨b, turns, rfl⟩ := List.exists_cons_of_length_pos (Nat.zero_lt_of_lt hturns)
    exact ⟨turns, by simp, skipEntries_close false bracket outer blanks rest⟩
  | @last bracket t blanks =>
    intro turns outer rest hturns
    obtain ⟨b, turns, rfl⟩ := List.exists_cons_of_length_pos (Nat.zero_lt_of_lt hturns)
    exact ⟨turns, by simp, skipEntries_close true bracket outer blanks rest⟩
  | @first bracket e es t u entry more ihentry ihmore =>
    intro turns outer rest hturns
    rw [List.length_append] at hturns
    obtain ⟨turns', hleft, hskip⟩ := ihentry turns outer false [] (u ++ bracket.closing :: rest)
      .first (more.ends rest) (by omega)
    obtain ⟨turns'', hleft', hskip'⟩ := ihmore turns' outer rest (by omega)
    refine ⟨turns'', by simp; omega, ?_⟩
    rw [List.append_assoc, ← hskip', ← hskip]
    rfl
  | @next bracket e es t u v blanks entry more ihentry ihmore =>
    intro turns outer rest hturns
    simp only [List.length_append, List.length_cons] at hturns
    obtain ⟨turns', hleft, hskip⟩ := ihentry turns outer true (t ++ [0x2C])
      (v ++ bracket.closing :: rest) (.comma blanks) (more.ends rest) (by omega)
    obtain ⟨turns'', hleft', hskip'⟩ := ihmore turns' outer rest (by omega)
    refine ⟨turns'', by simp; omega, ?_⟩
    rw [← hskip', ← hskip]
    simp

/-- A value is skipped to its end. -/
theorem skipValue_append {t u rest : Octets} (ht : IsBlanks t) (hu : Spells .value u)
    (hrest : Ends rest) : skipValue (t ++ (u ++ rest)) = .ok rest := by
  have hresume : ∀ w, skipValue w = (skipStart w).bind (resume w []) := by
    intro w
    unfold skipValue
    rcases skipStart w with _ | ⟨_ | _, _⟩
    · rfl
    · cases w <;> rfl
    · rfl
  obtain ⟨turns', _, hskip⟩ := hu.skips (t ++ (u ++ rest)) [] rest hrest (by simp; omega)
  rw [hresume, skipStart_append ht, hskip]
  cases turns' <;> rfl

end Workspaces.Json
