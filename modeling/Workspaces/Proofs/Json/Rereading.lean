-- What was written reads back: the text of a tidy value is read as that value, whatever ends it.
import Workspaces.Proofs.Json.Reading
import Workspaces.Proofs.Json.Tidy
import Workspaces.Proofs.Text.Numeral
import Workspaces.Proofs.Text.Utf8

namespace Workspaces.Json

open Octets (ofChars)

/-! ## Readers that take turns -/

/-- With turns enough, one for each octet, the reader gives the value for the text, and leaves what
stands behind it. -/
def Gives {α : Type} (read : (turns : Octets) → Reader α) (t : Octets) (x : α) : Prop :=
  ∀ turns rest, t.length ≤ turns.length → read turns (t ++ rest) = .ok (x, rest)

namespace Gives

variable {α : Type} {read read' : Octets → Reader α} {t u : Octets} {x : α}

theorem of_end (ht : 0 < t.length)
    (h : ∀ b turns rest, read (b :: turns) (t ++ rest) = .ok (x, rest)) : Gives read t x := by
  intro turns rest hturns
  obtain ⟨b, turns, rfl⟩ := List.exists_cons_of_length_pos (Nat.lt_of_lt_of_le ht hturns)
  exact h b turns rest

/-- A turn that leaves less to be read. -/
theorem of_turn (hu : Gives read' u x) (hlength : u.length < t.length)
    (h : ∀ b turns rest, read (b :: turns) (t ++ rest) = read' turns (u ++ rest)) :
    Gives read t x := by
  intro turns rest hturns
  obtain ⟨b, turns, rfl⟩ := List.exists_cons_of_length_pos (by omega : 0 < turns.length)
  rw [List.length_cons] at hturns
  rw [h]
  apply hu
  omega

/-- An octet, the text and what stands behind it are turns enough. -/
theorem whole (h : Gives read t x) (b : UInt8) (rest : Octets) :
    read (b :: (t ++ rest)) (t ++ rest) = .ok (x, rest) := by
  apply h
  rw [List.length_cons, List.length_append]
  omega

end Gives

/-! ## Strings -/

/-- An octet that stands for itself between quotes. -/
def StandsForItself (b : UInt8) : Prop :=
  ¬ b < 0x20 ∧ Octets.char b ≠ '"' ∧ Octets.char b ≠ '\\'

section Strings

variable {done octets e t u x : Octets}

theorem gives_plain (hu : ∀ b ∈ u, StandsForItself b)
    (h : Gives (fun turns => takeStringOnto turns (u.reverse ++ done)) t x) :
    Gives (fun turns => takeStringOnto turns done) (u ++ t) x := by
  induction u generalizing done with
  | nil => exact h
  | cons b u ih =>
    obtain ⟨⟨hprintable, hquote, hslash⟩, hu⟩ := List.forall_mem_cons.1 hu
    rw [List.reverse_cons, List.append_assoc] at h
    have hmore : Gives (fun turns => takeStringOnto turns (b :: done)) (u ++ t) x := ih hu h
    apply hmore.of_turn (Nat.lt_succ_self _)
    intro _ turns rest
    simp only [List.cons_append]
    rw [takeStringOnto, if_neg hquote, if_neg hslash, if_neg hprintable]

theorem gives_escape (he : ∀ rest, takeEscape (e ++ rest) = .ok (octets, rest))
    (h : Gives (fun turns => takeStringOnto turns (octets.reverse ++ done)) t x) :
    Gives (fun turns => takeStringOnto turns done) (0x5C :: (e ++ t)) x := by
  apply h.of_turn
  · simp only [List.length_cons, List.length_append]
    omega
  · intro _ turns rest
    rw [List.cons_append, List.append_assoc, takeStringOnto, if_neg (by decide),
      if_pos (by decide), he]

end Strings

theorem takeEscape_letter {b octet : UInt8} (h : letterEscape? (Octets.char b) = some octet)
    (rest : Octets) : takeEscape ([b] ++ rest) = .ok ([octet], rest) := by
  rw [List.singleton_append, takeEscape]
  simp only [h]

/-- The code of a character below the space. -/
theorem takeEscape_code {c : Char} (h : c.toNat < 0x20) (rest : Octets) :
    takeEscape (ofChars ['u', '0', '0', hexChar (c.toNat / 16), hexChar (c.toNat % 16)] ++ rest) =
      .ok (String.utf8EncodeChar c, rest) := by
  have hdigit : ∀ k < 16, ofChars [hexChar k] = [UInt8.ofNat (hexChar k).toNat] ∧
      Octets.hexDigit? (UInt8.ofNat (hexChar k).toNat) = some k := by
    decide +kernel
  obtain ⟨ha, hhigh⟩ := hdigit (c.toNat / 16) (by omega)
  obtain ⟨hb, hlow⟩ := hdigit (c.toNat % 16) (by omega)
  have hoctets : ofChars ['u', '0', '0', hexChar (c.toNat / 16), hexChar (c.toNat % 16)] =
      [0x75, 0x30, 0x30] ++ (ofChars [hexChar (c.toNat / 16)] ++
        ofChars [hexChar (c.toNat % 16)]) := by
    rw [← Octets.ofChars_append]
    rfl
  have hcode : ((0 * 16 + 0) * 16 + c.toNat / 16) * 16 + c.toNat % 16 = c.toNat := by omega
  rw [hoctets, ha, hb]
  simp only [List.cons_append, List.nil_append]
  rw [takeEscape]
  simp only [show letterEscape? (Octets.char 0x75) = none from rfl]
  rw [if_pos (by decide), takeHex4]
  simp only [show Octets.hexDigit? 0x30 = some 0 from rfl, hhigh, hlow, bind, Except.bind, hcode]
  rw [if_neg (by omega), if_neg (by omega), codePoint, Char.ofNat_toNat]

/-- The octets of a character that is not escaped. -/
theorem standsForItself_of_char {c : Char} (hprintable : 0x20 ≤ c.toNat) (hquote : c ≠ '"')
    (hslash : c ≠ '\\') : ∀ b ∈ String.utf8EncodeChar c, StandsForItself b := by
  have hhigh : ∀ b : UInt8, 0x80 ≤ b.toNat → StandsForItself b := by
    have hall : ∀ n : Fin 256, 0x80 ≤ (UInt8.ofFin n).toNat → ¬ UInt8.ofFin n < 0x20 ∧
        Octets.char (UInt8.ofFin n) ≠ '"' ∧ Octets.char (UInt8.ofFin n) ≠ '\\' := by
      decide +kernel
    intro b hb
    exact hall b.toFin hb
  have hmore : ∀ {b bits}, Octets.Continues b bits → StandsForItself b := by
    intro b bits hb
    apply hhigh
    unfold Octets.Continues at hb
    omega
  have hform := Octets.Form.of_char c
  generalize String.utf8EncodeChar c = t at hform ⊢
  cases hform with
  | @one a lead code =>
    have hc : Octets.char a = c := Char.ext (UInt32.toNat_inj.1 code.symm)
    intro b hb
    obtain rfl := List.mem_singleton.1 hb
    unfold StandsForItself
    rw [hc]
    refine ⟨?_, hquote, hslash⟩
    intro hless
    have hless : b.toNat < 0x20 := UInt8.lt_iff_toNat_lt.1 hless
    have hcode : c.toNat = b.toNat := code
    omega
  | two lead hb code least =>
    simpa using ⟨hhigh _ (by omega), hmore hb⟩
  | three lead hb hd code least =>
    simpa using ⟨hhigh _ (by omega), hmore hb, hmore hd⟩
  | four lead hb hd he code least =>
    simpa using ⟨hhigh _ (by omega), hmore hb, hmore hd, hmore he⟩

/-- A character is read back from what is written for it. -/
theorem gives_escaped (c : Char) {done t x : Octets}
    (h : Gives (fun turns => takeStringOnto turns ((String.utf8EncodeChar c).reverse ++ done)) t x) :
    Gives (fun turns => takeStringOnto turns done) (ofChars (escaped c) ++ t) x := by
  have hchar : ∀ d : Char, c.toNat = d.toNat → c = d := fun d hd => Char.toNat_inj.1 hd
  unfold escaped
  split
  · rename_i hc
    subst hc
    exact gives_escape (e := [0x22]) (takeEscape_letter rfl) h
  · split
    · rename_i hc
      subst hc
      exact gives_escape (e := [0x5C]) (takeEscape_letter rfl) h
    · split
      · rename_i hquote hslash hprintable
        have hself : ofChars [c] = String.utf8EncodeChar c := List.flatMap_singleton ..
        rw [hself]
        exact gives_plain (standsForItself_of_char hprintable hquote hslash) h
      · rename_i hcontrol
        split
        · rename_i hc
          subst hc
          exact gives_escape (e := [0x6E]) (takeEscape_letter rfl) h
        · split
          · rename_i hc
            subst hc
            exact gives_escape (e := [0x74]) (takeEscape_letter rfl) h
          · split
            · rename_i hc
              subst hc
              exact gives_escape (e := [0x72]) (takeEscape_letter rfl) h
            · split
              · rename_i hc
                obtain rfl := hchar '\x08' hc
                exact gives_escape (e := [0x62]) (takeEscape_letter rfl) h
              · split
                · rename_i hc
                  obtain rfl := hchar '\x0c' hc
                  exact gives_escape (e := [0x66]) (takeEscape_letter rfl) h
                · exact gives_escape (takeEscape_code (by omega)) h

theorem gives_characters (cs : List Char) (done : Octets) :
    Gives (fun turns => takeStringOnto turns done) (ofChars (cs.flatMap escaped) ++ [0x22])
      (done.reverse ++ ofChars cs) := by
  induction cs generalizing done with
  | nil =>
    apply Gives.of_end (by simp)
    intro _ turns rest
    simp [ofChars, takeStringOnto, show Octets.char 0x22 = '"' from rfl]
  | cons c cs ih =>
    have hmore := ih ((String.utf8EncodeChar c).reverse ++ done)
    rw [List.reverse_append, List.reverse_reverse, List.append_assoc,
      ← Octets.ofChars_cons] at hmore
    rw [List.flatMap_cons, Octets.ofChars_append, List.append_assoc]
    exact gives_escaped c hmore

theorem ofChars_quoted (s : String) :
    ofChars (quoted s) = 0x22 :: (ofChars (s.toList.flatMap escaped) ++ [0x22]) := by
  unfold quoted
  rw [Octets.ofChars_cons, Octets.ofChars_append]
  rfl

/-- A string is read back, but for the quote in front. -/
theorem takeString_quoted (s : String) (rest : Octets) :
    takeString (ofChars (s.toList.flatMap escaped) ++ [0x22] ++ rest) = .ok (s, rest) := by
  have htake := (gives_characters s.toList []).whole 0x22 rest
  have htext : Octets.text? (ofChars s.toList) = some s := by
    unfold Octets.text?
    rw [(Octets.chars?_eq_some_iff _ _).2 rfl, Option.map_some, String.ofList_toList]
  unfold takeString
  simp only [htake, bind, Except.bind, List.reverse_nil, List.nil_append, htext]

/-! ## Integers -/

theorem starts_toDigits (n : Nat) :
    ∃ b u, ofChars (Nat.toDigits 10 n) = b :: u ∧ isDigit b = true := by
  cases hdigits : Nat.toDigits 10 n with
  | nil => exact absurd hdigits Nat.toDigits_ne_nil
  | cons c cs =>
    have hc : c ∈ Nat.toDigits 10 n := by
      rw [hdigits]
      exact List.mem_cons_self
    obtain ⟨b, hoctets, hdigit⟩ :=
      Numeral.digit_of_char (Numeral.isDigit_of_mem_toDigits hc)
    refine ⟨b, ofChars cs, ?_, ?_⟩
    · rw [Octets.ofChars_cons, hoctets]
      rfl
    · unfold isDigit
      rw [hdigit]
      rfl

/-- Digits for all of which there is room are taken as the number that they tell. -/
theorem takeDigits_chars {cs : List Char} (hcs : ∀ c ∈ cs, c.isDigit = true) (n count : Nat)
    (hroom : Nat.ofDigitChars 10 cs n ≤ (IntegerRange.unsigned 64).greatest) {rest : Octets}
    (hrest : startsWithDigit rest = false) :
    takeDigits n count (ofChars cs ++ rest) =
      (Nat.ofDigitChars 10 cs n, count + cs.length, rest) := by
  induction cs generalizing n count with
  | nil =>
    cases rest with
    | nil => rfl
    | cons b rest =>
      have hb : Octets.digit? b = none := by simpa [startsWithDigit, isDigit] using hrest
      change takeDigits n count (b :: rest) = _
      rw [takeDigits]
      simp only [hb]
      rfl
  | cons c cs ih =>
    obtain ⟨hc, hcs⟩ := List.forall_mem_cons.1 hcs
    obtain ⟨b, hoctets, hdigit⟩ := Numeral.digit_of_char hc
    rw [Nat.ofDigitChars_cons] at hroom ⊢
    have hfits := Nat.le_trans (Numeral.le_ofDigitChars cs _) hroom
    rw [Octets.ofChars_cons, hoctets, List.append_assoc, List.singleton_append, takeDigits]
    simp only [hdigit]
    rw [if_pos hfits, ih hcs _ _ hroom, List.length_cons, Nat.add_assoc, Nat.add_comm 1]

theorem takeNumberRest_of_ends (negative : Bool) (n dropped : Nat) {rest : Octets}
    (h : Ends rest) :
    takeNumberRest negative n dropped rest = takeNumberRest.whole negative n dropped rest := by
  cases rest with
  | nil => rfl
  | cons b rest =>
    obtain ⟨_, hpoint, hsmall, hlarge⟩ := h.head
    rw [takeNumberRest, if_neg hpoint, if_neg (by simp [hsmall, hlarge])]

/-- The digits of a number that has room are taken as that number. -/
theorem takeNumber_digits (negative : Bool) {n : Nat}
    (hroom : n ≤ (IntegerRange.unsigned 64).greatest) {rest : Octets} (hrest : Ends rest) :
    takeNumber negative (ofChars (Nat.toDigits 10 n) ++ rest) =
      takeNumberRest.whole negative n 0 rest := by
  have hstop := hrest.startsWithDigit
  by_cases hzero : n = 0
  · subst hzero
    change takeNumber negative (0x30 :: rest) = _
    rw [takeNumber]
    simp only [show Octets.digit? 0x30 = some 0 from rfl]
    rw [if_neg (by simp [hstop]), takeNumberRest_of_ends _ _ _ hrest]
  · obtain ⟨c, cs, hdigits, hc⟩ := Numeral.toDigits_of_pos n (by omega)
    have hall : ∀ d ∈ c :: cs, d.isDigit = true := by
      intro d hd
      rw [← hdigits] at hd
      exact Numeral.isDigit_of_mem_toDigits hd
    obtain ⟨hdigit, hmore⟩ := List.forall_mem_cons.1 hall
    obtain ⟨b, hoctets, hvalue⟩ := Numeral.digit_of_char hdigit
    have hleast := (Char.isDigit_iff_toNat.1 hdigit).1
    have hnonzero : c.toNat ≠ '0'.toNat := by
      intro h
      exact hc (Char.toNat_inj.1 h)
    obtain ⟨d, hd⟩ : ∃ d, c.toNat - '0'.toNat = d + 1 := ⟨c.toNat - '0'.toNat - 1, by omega⟩
    have hn : Nat.ofDigitChars 10 cs (d + 1) = n := by
      have hread := Nat.ofDigitChars_ten_toDigits (n := n)
      rwa [hdigits, Nat.ofDigitChars_cons, Nat.mul_zero, Nat.zero_add, hd] at hread
    have htake := takeDigits_chars hmore (d + 1) 1 (by omega) hstop
    have hskip := skipDigits_append (List.forall_mem_nil _) hstop
    have hnone := takeWhile_digits (List.forall_mem_nil _) hstop
    rw [List.nil_append] at hskip hnone
    rw [hdigits, Octets.ofChars_cons, hoctets, List.append_assoc, List.singleton_append,
      takeNumber]
    simp only [hvalue, hd, htake, hn, hnone, hskip]
    exact takeNumberRest_of_ends _ _ _ hrest

/-! ## Values -/

/-- The text of a value is read as the value, whatever ends the text. -/
def Rereads (depth : Nat) (v : Json) : Prop :=
  ∀ rest, Ends rest → takeValue depth (ofChars v.chars ++ rest) = .ok (v, rest)

theorem rereads_integer (depth : Nat) {n : Int} (h : (Number.integer n).Fits) :
    Rereads (depth + 1) (.number (.integer n)) := by
  intro rest hrest
  obtain ⟨hleast, hgreatest⟩ := (Number.fits_integer_iff n).1 h
  have hroom : n.natAbs ≤ (IntegerRange.unsigned 64).greatest := by
    change n.natAbs ≤ 2 ^ 64 - 1
    omega
  change takeValue (depth + 1) (ofChars (Numeral.write n) ++ rest) = _
  unfold Numeral.write
  split
  · rename_i hnegative
    have hcontains : (IntegerRange.signed 64).contains (-(n.natAbs : Int)) = true := by
      rw [IntegerRange.contains, Bool.and_eq_true, decide_eq_true_eq, decide_eq_true_eq]
      change -2 ^ 63 ≤ _ ∧ _ ≤ ((2 ^ 63 - 1 : Nat) : Int)
      omega
    have hback : -(n.natAbs : Int) = n := by omega
    change (takeNumber true (ofChars (Nat.toDigits 10 n.natAbs) ++ rest)).map _ = _
    rw [takeNumber_digits true hroom hrest, takeNumberRest.whole, if_neg (by decide),
      if_neg (by decide), if_pos ⟨by omega, hcontains⟩, hback]
    rfl
  · have hback : (n.natAbs : Int) = n := by omega
    obtain ⟨b, u, hoctets, hb⟩ := starts_toDigits n.natAbs
    have htake := takeNumber_digits false hroom hrest
    rw [hoctets] at htake ⊢
    rw [List.cons_append] at htake ⊢
    rw [takeValue_of_isDigit hb, htake, takeNumberRest.whole, if_neg (by decide),
      if_pos (by decide), hback]
    rfl

/-- A value that is written begins with an octet that begins a value. -/
theorem Tidy.starts {depth : Nat} {v : Json} (h : Tidy depth v) :
    ∃ b u, ofChars v.chars = b :: u ∧ Starts b := by
  cases h with
  | null => exact ⟨_, _, rfl, by decide⟩
  | bool b => cases b <;> exact ⟨_, _, rfl, by decide⟩
  | @integer _ n _ =>
    change ∃ b u, ofChars (Numeral.write n) = b :: u ∧ Starts b
    unfold Numeral.write
    split
    · exact ⟨_, _, rfl, by decide⟩
    · obtain ⟨b, u, hoctets, hb⟩ := starts_toDigits n.natAbs
      exact ⟨b, u, hoctets, starts_of_isDigit hb⟩
  | string s =>
    refine ⟨_, _, ofChars_quoted s, ?_⟩
    decide
  | @array _ vs _ => cases vs <;> exact ⟨_, _, rfl, by decide⟩
  | @object _ ms _ _ => cases ms <;> exact ⟨_, _, rfl, by decide⟩

/-! ## Lists -/

/-- An item is next, at once or behind a comma. -/
theorem nextItem_starts {later : Bool} {lead u : Octets} {b : UInt8} (hlead : Leads later lead)
    (hb : Starts b) : nextItem later (lead ++ b :: u) = .ok (some (b :: u)) := by
  obtain ⟨hblank, hclose⟩ := hb
  cases hlead with
  | first =>
    rw [List.nil_append, nextItem, skipBlanks_cons hblank]
    simp [hclose]
  | comma blanks =>
    rw [List.append_assoc, List.singleton_append, nextItem, skipBlanks_append blanks,
      skipBlanks_cons (by decide)]
    simp only
    rw [if_neg (by decide), if_neg (by decide), if_pos (by decide), skipBlanks_cons hblank]
    simp [hclose]

/-- What stands behind an item or a member may end a value. -/
theorem ends_moreItems (vs : List Json) (rest : Octets) : Ends (ofChars (moreItems vs) ++ rest) := by
  cases vs with
  | nil => exact ends_cons (by decide) _
  | cons v vs => exact ends_cons (by decide) _

/-- An item is read, and then the items behind it. -/
theorem gives_item {depth : Nat} {v : Json} {vs done : List Json} {lead : Octets} {x : List Json}
    (hlead : Leads (!done.isEmpty) lead) (hstarts : ∃ b u, ofChars v.chars = b :: u ∧ Starts b)
    (hv : Rereads depth v)
    (h : Gives (fun turns => takeItems (takeValue depth) turns (v :: done))
      (ofChars (moreItems vs)) x) :
    Gives (fun turns => takeItems (takeValue depth) turns done)
      (lead ++ ofChars (v.chars ++ moreItems vs)) x := by
  obtain ⟨b, u, hoctets, hb⟩ := hstarts
  apply h.of_turn
  · rw [Octets.ofChars_append, hoctets]
    simp only [List.length_append, List.length_cons]
    omega
  · intro _ turns rest
    have hread := hv (ofChars (moreItems vs) ++ rest) (ends_moreItems vs rest)
    rw [hoctets, List.cons_append] at hread
    rw [Octets.ofChars_append, hoctets, List.append_assoc, List.append_assoc, List.cons_append,
      takeItems, nextItem_starts hlead hb]
    simp only [hread]

theorem gives_noItems {depth : Nat} (done : List Json) :
    Gives (fun turns => takeItems (takeValue depth) turns done) [0x5D] done.reverse := by
  apply Gives.of_end (by decide)
  intro _ turns rest
  have hnext := nextItem_end (!done.isEmpty) (List.forall_mem_nil _) rest
  have hend := takeListEnd_append (List.forall_mem_nil _) rest
  rw [List.nil_append] at hnext hend
  rw [List.singleton_append, takeItems, hnext, hend]
  rfl

theorem gives_moreItems {depth : Nat} (vs done : List Json) (hdone : done ≠ [])
    (hvs : ∀ v ∈ vs, Tidy depth v ∧ Rereads depth v) :
    Gives (fun turns => takeItems (takeValue depth) turns done) (ofChars (moreItems vs))
      (done.reverse ++ vs) := by
  induction vs generalizing done with
  | nil =>
    rw [List.append_nil]
    exact gives_noItems done
  | cons v vs ih =>
    obtain ⟨⟨htidy, hv⟩, hvs⟩ := List.forall_mem_cons.1 hvs
    have hmore := ih (v :: done) (List.cons_ne_nil _ _) hvs
    rw [List.reverse_cons, List.append_assoc, List.singleton_append] at hmore
    have hlead : Leads (!done.isEmpty) ([] ++ [0x2C]) := by
      rw [List.isEmpty_eq_false_iff.2 hdone]
      exact .comma (List.forall_mem_nil _)
    exact gives_item hlead htidy.starts hv hmore

theorem rereads_array {depth : Nat} {vs : List Json}
    (hvs : ∀ v ∈ vs, Tidy (depth + 1) v ∧ Rereads (depth + 1) v) :
    Rereads (depth + 2) (.array vs) := by
  have hgives : ∃ t, ofChars (Json.array vs).chars = 0x5B :: t ∧
      Gives (fun turns => takeItems (takeValue (depth + 1)) turns []) t vs := by
    cases vs with
    | nil => exact ⟨_, rfl, gives_noItems []⟩
    | cons v vs =>
      obtain ⟨⟨htidy, hv⟩, hvs⟩ := List.forall_mem_cons.1 hvs
      have hmore := gives_moreItems vs [v] (List.cons_ne_nil _ _) hvs
      exact ⟨_, rfl, gives_item .first htidy.starts hv hmore⟩
  obtain ⟨t, ht, hgives⟩ := hgives
  intro rest _
  have htake := hgives.whole 0x5B rest
  rw [ht, List.cons_append, takeValue, skipBlanks_cons (by decide)]
  simp only
  rw [if_pos (by decide), if_neg (by omega), htake]
  rfl

/-! ## Objects -/

/-- A name that is written is next, at once or behind a comma. -/
theorem nextName_quoted {later : Bool} {lead : Octets} (hlead : Leads later lead) (name : String)
    (rest : Octets) :
    nextName later (lead ++ (ofChars (quoted name) ++ rest)) = .ok (some (name, rest)) := by
  have htake := takeString_quoted name rest
  rw [ofChars_quoted, List.cons_append]
  cases hlead with
  | first =>
    rw [List.nil_append, nextName, skipBlanks_cons (by decide)]
    simp only [Bool.false_eq_true, if_false]
    rw [if_neg (by decide), if_pos (by decide), htake]
    rfl
  | comma blanks =>
    rw [List.append_assoc, List.singleton_append, nextName, skipBlanks_append blanks,
      skipBlanks_cons (by decide)]
    simp only [if_true]
    rw [if_neg (by decide), if_pos (by decide), skipBlanks_cons (by decide)]
    simp only
    rw [if_pos (by decide), htake]
    rfl

theorem takeColon_colon (rest : Octets) : takeColon (0x3A :: rest) = .ok rest := by
  rw [takeColon, skipBlanks_cons (by decide)]
  exact if_pos (by decide)

theorem ends_moreMembers (ms : List (String × Json)) (rest : Octets) :
    Ends (ofChars (moreMembers ms) ++ rest) := by
  cases ms with
  | nil => exact ends_cons (by decide) _
  | cons m ms => exact ends_cons (by decide) _

/-- A name behind all others is set at the end. -/
theorem setMember_of_ascending {name : String} {v : Json} {done : List (String × Json)}
    (h : ∀ m ∈ done, m.1 < name) : setMember name v done = done ++ [(name, v)] := by
  induction done with
  | nil => rfl
  | cons m done ih =>
    obtain ⟨hm, hdone⟩ := List.forall_mem_cons.1 h
    have hne : name ≠ m.1 := by
      intro heq
      rw [heq] at hm
      exact String.lt_irrefl _ hm
    rw [setMember, if_neg (String.lt_asymm hm), if_neg hne, ih hdone]
    rfl

/-- The octets of a member: its name, a colon and its value. -/
theorem ofChars_member (name : String) (v : Json) (cs : List Char) :
    ofChars (quoted name ++ ':' :: (v.chars ++ cs)) =
      ofChars (quoted name) ++ 0x3A :: (ofChars v.chars ++ ofChars cs) := by
  rw [Octets.ofChars_append, Octets.ofChars_cons, Octets.ofChars_append]
  rfl

/-- A member is read, and then the members behind it. -/
theorem gives_member {depth : Nat} {name : String} {v : Json} {later : Bool}
    {ms done x : List (String × Json)} {lead : Octets} (hlead : Leads later lead)
    (hv : Rereads depth v)
    (h : Gives (fun turns => takeMembers (takeValue depth) turns true (setMember name v done))
      (ofChars (moreMembers ms)) x) :
    Gives (fun turns => takeMembers (takeValue depth) turns later done)
      (lead ++ ofChars (quoted name ++ ':' :: (v.chars ++ moreMembers ms))) x := by
  rw [ofChars_member]
  apply h.of_turn
  · simp only [List.length_append, List.length_cons]
    omega
  · intro _ turns rest
    have hread := hv (ofChars (moreMembers ms) ++ rest) (ends_moreMembers ms rest)
    simp only [List.append_assoc, List.cons_append]
    rw [takeMembers, nextName_quoted hlead]
    simp only [takeColon_colon, hread]

theorem gives_noMembers {depth : Nat} (later : Bool) (done : List (String × Json)) :
    Gives (fun turns => takeMembers (takeValue depth) turns later done) [0x7D] done := by
  apply Gives.of_end (by decide)
  intro _ turns rest
  have hnext := nextName_end later (List.forall_mem_nil _) rest
  have hend := takeObjectEnd_append (List.forall_mem_nil _) rest
  rw [List.nil_append] at hnext hend
  rw [List.singleton_append, takeMembers, hnext, hend]
  rfl

theorem gives_moreMembers {depth : Nat} (ms done : List (String × Json))
    (hascending : Ascending (done ++ ms)) (hms : ∀ m ∈ ms, Rereads depth m.2) :
    Gives (fun turns => takeMembers (takeValue depth) turns true done) (ofChars (moreMembers ms))
      (done ++ ms) := by
  induction ms generalizing done with
  | nil =>
    rw [List.append_nil]
    exact gives_noMembers true done
  | cons m ms ih =>
    obtain ⟨name, v⟩ := m
    obtain ⟨hv, hms⟩ := List.forall_mem_cons.1 hms
    have hbehind : ∀ m ∈ done, m.1 < name := by
      intro m hm
      exact (List.pairwise_append.1 hascending).2.2 m hm _ List.mem_cons_self
    have hassoc : done ++ (name, v) :: ms = setMember name v done ++ ms := by
      rw [setMember_of_ascending hbehind, List.append_assoc]
      rfl
    rw [hassoc] at hascending ⊢
    exact gives_member (.comma (List.forall_mem_nil _)) hv (ih _ hascending hms)

theorem rereads_object {depth : Nat} {ms : List (String × Json)} (hascending : Ascending ms)
    (hms : ∀ m ∈ ms, Rereads (depth + 1) m.2) : Rereads (depth + 2) (.object ms) := by
  have hgives : ∃ t, ofChars (Json.object ms).chars = 0x7B :: t ∧
      Gives (fun turns => takeMembers (takeValue (depth + 1)) turns false []) t ms := by
    cases ms with
    | nil => exact ⟨_, rfl, gives_noMembers false []⟩
    | cons m ms =>
      obtain ⟨name, v⟩ := m
      obtain ⟨hv, hms⟩ := List.forall_mem_cons.1 hms
      have hmore := gives_moreMembers ms [(name, v)] hascending hms
      exact ⟨_, rfl, gives_member .first hv hmore⟩
  obtain ⟨t, ht, hgives⟩ := hgives
  intro rest _
  have htake := hgives.whole 0x7B rest
  rw [ht, List.cons_append, takeValue, skipBlanks_cons (by decide)]
  simp only
  rw [if_neg (by decide), if_pos (by decide), if_neg (by omega), htake]
  rfl

/-! ## All values -/

/-- Whatever tidy value was written is read back. -/
theorem Tidy.rereads {depth : Nat} {v : Json} (h : Tidy depth v) : Rereads depth v := by
  induction h with
  | null =>
    intro rest _
    rfl
  | bool b =>
    intro rest _
    cases b <;> rfl
  | integer fits => exact rereads_integer _ fits
  | string s =>
    intro rest _
    have htake := takeString_quoted s rest
    change takeValue _ (ofChars (quoted s) ++ rest) = _
    rw [ofChars_quoted, List.cons_append, takeValue_string, htake]
    rfl
  | array items ih => exact rereads_array fun v hv => ⟨items v hv, ih v hv⟩
  | object ascending members ih => exact rereads_object ascending ih

end Workspaces.Json
