-- Strings and numbers as they are accepted: whatever is taken or skipped as a leaf is a leaf of the
-- grammar, and a string that is taken is UTF-8.
import Workspaces.Proofs.Except
import Workspaces.Proofs.Json.Grammar
import Workspaces.Proofs.Text.Utf8

namespace Workspaces.Json

/-! ## Octets -/

/-- What stands between a text and its rest has the property. -/
def Took (P : Octets → Prop) (t rest : Octets) : Prop := ∃ u, P u ∧ t = u ++ rest

namespace Took

variable {P Q R : Octets → Prop} {t u rest : Octets}

theorem of_nil (h : P []) : Took P t t := ⟨[], h, rfl⟩

theorem mono (h : Took P t rest) (hP : ∀ u, P u → Q u) : Took Q t rest := by
  obtain ⟨u, hu, ht⟩ := h
  exact ⟨u, hP u hu, ht⟩

theorem append (ht : Took P t u) (hu : Took Q u rest) (h : ∀ a b, P a → Q b → R (a ++ b)) :
    Took R t rest := by
  obtain ⟨a, ha, rfl⟩ := ht
  obtain ⟨b, hb, rfl⟩ := hu
  exact ⟨a ++ b, h a b ha hb, (List.append_assoc a b rest).symm⟩

theorem cons {b : UInt8} (ht : Took P t rest) (h : ∀ a, P a → R (b :: a)) :
    Took R (b :: t) rest := by
  obtain ⟨a, ha, rfl⟩ := ht
  exact ⟨b :: a, h a ha, rfl⟩

end Took

theorem took_of_dropWhile (p : UInt8 → Bool) (t : Octets) :
    Took (fun u => ∀ b ∈ u, p b = true) t (t.dropWhile p) :=
  ⟨t.takeWhile p, List.all_eq_true.1 List.all_takeWhile, List.takeWhile_append_dropWhile.symm⟩

theorem took_skipBlanks (t : Octets) : Took IsBlanks t (skipBlanks t) := took_of_dropWhile _ t

theorem took_skipDigits (t : Octets) :
    Took (fun u => ∀ d ∈ u, isDigit d = true) t (skipDigits t) := took_of_dropWhile _ t

/-- Digits are skipped if the text begins with one. -/
theorem took_digits {t : Octets} (h : startsWithDigit t = true) :
    Took IsDigits t (skipDigits t) := by
  cases t with
  | nil => cases h
  | cons b t =>
    have hb : isDigit b = true := h
    have hskip : skipDigits (b :: t) = skipDigits t := List.dropWhile_cons_of_pos hb
    rw [hskip]
    exact (took_skipDigits t).cons fun a ha => ⟨by simp, List.forall_mem_cons.2 ⟨hb, ha⟩⟩

/-- A word is taken as such. -/
theorem eq_of_takeWord {w t rest : Octets} (h : takeWord (w.map Octets.char) t = .ok rest) :
    t = w ++ rest := by
  induction w generalizing t with
  | nil => exact Except.ok.inj h
  | cons b w ih =>
    cases t with
    | nil => cases h
    | cons c t =>
      rw [List.map_cons, takeWord] at h
      split at h
      · rename_i hc
        rw [Octets.char_injective hc, ih h]
        rfl
      · cases h

/-! ## Escapes -/

theorem took_takeHex4 {t rest : Octets} {n : Nat} (h : takeHex4 t = .ok (n, rest)) :
    ∃ a b c d, t = a :: b :: c :: d :: rest ∧
      ∀ e ∈ [a, b, c, d], (Octets.hexDigit? e).isSome = true := by
  unfold takeHex4 at h
  split at h
  · rename_i a b c d u
    split at h
    · rename_i w x y z ha hb hc hd
      obtain ⟨_, rfl⟩ := Prod.mk.inj (Except.ok.inj h)
      exact ⟨a, b, c, d, rfl, by simp [ha, hb, hc, hd]⟩
    · cases h
  · cases h

/-- What stands for one character in a string. -/
structure IsEscape (e : Octets) : Prop where
  characters : ∀ {t}, IsCharacters t → IsCharacters (e ++ t)
  ascii : ∀ b ∈ e, b < 0x80

theorem IsEscape.append {e f : Octets} (he : IsEscape e) (hf : IsEscape f) : IsEscape (e ++ f) where
  characters ht := by
    rw [List.append_assoc]
    exact he.characters (hf.characters ht)
  ascii := List.forall_mem_append.2 ⟨he.ascii, hf.ascii⟩

theorem IsEscape.letter {b : UInt8} (h : (letterEscape? (Octets.char b)).isSome = true) :
    IsEscape [0x5C, b] where
  characters := .letter h
  ascii := by
    have hall : ∀ n : Fin 256, (letterEscape? (Octets.char (UInt8.ofFin n))).isSome = true →
        UInt8.ofFin n < 0x80 := by
      decide +kernel
    exact List.forall_mem_cons.2 ⟨by decide, List.forall_mem_singleton.2 (hall b.toFin h)⟩

theorem IsEscape.code {a b c d : UInt8}
    (h : ∀ e ∈ [a, b, c, d], (Octets.hexDigit? e).isSome = true) :
    IsEscape [0x5C, 0x75, a, b, c, d] where
  characters := .code h
  ascii := by
    have hall : ∀ n : Fin 256, (Octets.hexDigit? (UInt8.ofFin n)).isSome = true →
        UInt8.ofFin n < 0x80 := by
      decide +kernel
    have hdigits : ∀ e ∈ [a, b, c, d], e < 0x80 := fun e he => hall e.toFin (h e he)
    exact List.forall_mem_cons.2 ⟨by decide, List.forall_mem_cons.2 ⟨by decide, hdigits⟩⟩

theorem took_takeLowSurrogate {high : Nat} {t rest octets : Octets}
    (h : takeLowSurrogate high t = .ok (octets, rest)) :
    Took IsEscape t rest ∧ ∃ c, octets = String.utf8EncodeChar c := by
  unfold takeLowSurrogate at h
  split at h
  · cases h
  · split at h <;> cases h
  · rename_i b c u
    split at h
    · cases h
    · rename_i hb
      split at h
      · cases h
      · rename_i hc
        obtain rfl : b = 0x5C := Octets.eq_of_char (Decidable.not_not.1 hb) rfl
        obtain rfl : c = 0x75 := Octets.eq_of_char (Decidable.not_not.1 hc) rfl
        cases hhex : takeHex4 u with
        | error stop =>
          rw [hhex] at h
          cases h
        | ok r =>
          obtain ⟨n, v⟩ := r
          obtain ⟨_, _, _, _, rfl, hdigits⟩ := took_takeHex4 hhex
          rw [hhex] at h
          simp only [bind, Except.bind] at h
          split at h
          · obtain ⟨rfl, rfl⟩ := Prod.mk.inj (Except.ok.inj h)
            exact ⟨⟨_, .code hdigits, rfl⟩, _, rfl⟩
          · cases h

theorem eq_utf8EncodeChar_of_letter {c : Char} {octet : UInt8} (h : letterEscape? c = some octet) :
    [octet] = String.utf8EncodeChar (Octets.char octet) := by
  refine (Octets.Form.one ?_ rfl).eq_utf8EncodeChar
  unfold letterEscape? at h
  split at h <;> cases h <;> decide

/-- An escape stands for one character. -/
theorem took_takeEscape {t rest octets : Octets} (h : takeEscape t = .ok (octets, rest)) :
    Took IsEscape (0x5C :: t) rest ∧ ∃ c, octets = String.utf8EncodeChar c := by
  unfold takeEscape at h
  split at h
  · cases h
  · rename_i b u
    split at h
    · rename_i octet hletter
      obtain ⟨rfl, rfl⟩ := Prod.mk.inj (Except.ok.inj h)
      exact ⟨⟨_, .letter (by simp [hletter]), rfl⟩, _, eq_utf8EncodeChar_of_letter hletter⟩
    · split at h
      · rename_i hb
        obtain rfl : b = 0x75 := Octets.eq_of_char hb rfl
        cases hhex : takeHex4 u with
        | error stop =>
          rw [hhex] at h
          cases h
        | ok r =>
          obtain ⟨n, v⟩ := r
          obtain ⟨_, _, _, _, rfl, hdigits⟩ := took_takeHex4 hhex
          have hfirst : Took IsEscape (0x5C :: 0x75 :: _) v := ⟨_, .code hdigits, rfl⟩
          rw [hhex] at h
          simp only [bind, Except.bind] at h
          split at h
          · cases h
          · split at h
            · obtain ⟨hsecond, hpair⟩ := took_takeLowSurrogate h
              exact ⟨hfirst.append hsecond fun _ _ => IsEscape.append, hpair⟩
            · obtain ⟨rfl, rfl⟩ := Prod.mk.inj (Except.ok.inj h)
              exact ⟨hfirst, _, rfl⟩
      · cases h

/-! ## Strings -/

/-- The characters of a string stand for the octets: an escape for those of one character, any other
octet for itself. -/
inductive Denotes : Octets → Octets → Prop
  | nil : Denotes [] []
  | plain {b : UInt8} {t d : Octets} (printable : ¬ b < 0x20) (quote : Octets.char b ≠ '"')
      (backslash : Octets.char b ≠ '\\') (more : Denotes t d) : Denotes (b :: t) (b :: d)
  | escape {e t d : Octets} (c : Char) (escape : IsEscape e) (more : Denotes t d) :
      Denotes (e ++ t) (String.utf8EncodeChar c ++ d)

namespace Denotes

variable {t d : Octets}

theorem isCharacters (h : Denotes t d) : IsCharacters t := by
  induction h with
  | nil => exact .nil
  | plain printable quote backslash _ ih => exact .plain printable quote backslash ih
  | escape _ escape _ ih => exact escape.characters ih

/-- Between two escapes the octets of a string are those of a text, if what it stands for is one. -/
theorem isText_append (h : Denotes t d) {p : Octets} (hp : Octets.IsText (p ++ d)) :
    Octets.IsText (p ++ t) := by
  induction h generalizing p with
  | nil => exact hp
  | @plain b t d _ _ _ _ ih =>
    have hassoc : ∀ u, p ++ b :: u = p ++ [b] ++ u := by simp
    rw [hassoc] at hp ⊢
    exact ih hp
  | @escape e t d c escape _ ih =>
    obtain ⟨hbefore, hbehind⟩ := hp.split_utf8EncodeChar
    exact hbefore.append ((Octets.IsText.of_ascii escape.ascii).append (ih (p := []) hbehind))

theorem isText (h : Denotes t d) (hd : Octets.IsText d) : Octets.IsText t :=
  h.isText_append (p := []) hd

end Denotes

theorem took_takeStringOnto {turns done t rest octets : Octets}
    (h : takeStringOnto turns done t = .ok (octets, rest)) :
    ∃ u d, Denotes u d ∧ octets = done.reverse ++ d ∧ t = u ++ 0x22 :: rest := by
  fun_induction takeStringOnto turns done t with
  | case1 | case2 | case4 | case6 => cases h
  | case3 _ turns done b t hb =>
    obtain ⟨rfl, rfl⟩ := Prod.mk.inj (Except.ok.inj h)
    obtain rfl : b = 0x22 := Octets.eq_of_char hb rfl
    exact ⟨[], [], .nil, by simp, rfl⟩
  | case5 _ turns done b t hquote hb octets' u hescape ih =>
    obtain rfl : b = 0x5C := Octets.eq_of_char hb rfl
    obtain ⟨⟨e, he, htake⟩, c, rfl⟩ := took_takeEscape hescape
    obtain ⟨v, d, hv, hoctets, rfl⟩ := ih h
    exact ⟨e ++ v, _, .escape c he hv, by simp [hoctets], by rw [htake, List.append_assoc]⟩
  | case7 _ turns done b t hquote hbackslash hprintable ih =>
    obtain ⟨v, d, hv, hoctets, rfl⟩ := ih h
    exact ⟨b :: v, b :: d, .plain hprintable hquote hbackslash hv, by simp [hoctets], rfl⟩

/-- A string is taken up to its quote, and is UTF-8. -/
theorem took_takeString {t rest : Octets} {s : String} (h : takeString t = .ok (s, rest)) :
    ∃ u, IsCharacters u ∧ Octets.IsText u ∧ t = u ++ 0x22 :: rest := by
  unfold takeString at h
  cases honto : takeStringOnto (0x22 :: t) [] t with
  | error stop =>
    rw [honto] at h
    cases h
  | ok r =>
    obtain ⟨octets, v⟩ := r
    rw [honto] at h
    simp only [bind, Except.bind] at h
    split at h
    · rename_i hs
      obtain ⟨rfl, rfl⟩ := Prod.mk.inj (Except.ok.inj h)
      obtain ⟨u, d, hu, hoctets, rfl⟩ := took_takeStringOnto honto
      have htext : Octets.IsText octets := (Octets.isText_iff octets).2 (by rw [hs]; rfl)
      rw [List.reverse_nil, List.nil_append] at hoctets
      exact ⟨u, hu.isCharacters, hu.isText (hoctets ▸ htext), rfl⟩
    · cases h

theorem took_skipEscape {t rest : Octets} (h : skipEscape t = .ok rest) :
    Took IsEscape (0x5C :: t) rest := by
  unfold skipEscape at h
  split at h
  · cases h
  · rename_i b u
    split at h
    · rename_i hletter
      obtain rfl := Except.ok.inj h
      exact ⟨_, .letter hletter, rfl⟩
    · split at h
      · rename_i hb
        obtain rfl : b = 0x75 := Octets.eq_of_char hb rfl
        obtain ⟨⟨n, v⟩, hhex, rfl⟩ := ok_of_map h
        obtain ⟨_, _, _, _, rfl, hdigits⟩ := took_takeHex4 hhex
        exact ⟨_, .code hdigits, rfl⟩
      · cases h

theorem took_skipStringRest {turns t rest : Octets} (h : skipStringRest turns t = .ok rest) :
    ∃ u, IsCharacters u ∧ t = u ++ 0x22 :: rest := by
  fun_induction skipStringRest turns t with
  | case1 | case2 | case4 | case6 => cases h
  | case3 _ turns b t hb =>
    obtain rfl := Except.ok.inj h
    obtain rfl : b = 0x22 := Octets.eq_of_char hb rfl
    exact ⟨[], .nil, rfl⟩
  | case5 _ turns b t hquote hb u hescape ih =>
    obtain rfl : b = 0x5C := Octets.eq_of_char hb rfl
    obtain ⟨e, he, htake⟩ := took_skipEscape hescape
    obtain ⟨v, hv, rfl⟩ := ih h
    exact ⟨e ++ v, he.characters hv, by rw [htake, List.append_assoc]⟩
  | case7 _ turns b t hquote hbackslash hprintable ih =>
    obtain ⟨v, hv, rfl⟩ := ih h
    exact ⟨b :: v, .plain hprintable hquote hbackslash hv, rfl⟩

theorem took_skipString {t rest : Octets} (h : skipString t = .ok rest) :
    ∃ u, IsCharacters u ∧ t = u ++ 0x22 :: rest := took_skipStringRest h

/-! ## Numbers -/

theorem isDigit_of_digit? {b : UInt8} {d : Nat} (h : Octets.digit? b = some d) :
    isDigit b = true := by
  unfold isDigit
  rw [h]
  rfl

theorem eq_zero_of_digit? {b : UInt8} (h : Octets.digit? b = some 0) : b = 0x30 := by
  have hall : ∀ b ∈ digitOctets, Octets.digit? b = some 0 → b = 0x30 := by decide +kernel
  exact hall b (mem_digitOctets (isDigit_of_digit? h)) h

theorem ne_zero_of_digit? {b : UInt8} {d : Nat} (h : Octets.digit? b = some d) (hd : d ≠ 0) :
    b ≠ 0x30 := by
  rintro rfl
  exact hd (Option.some.inj h).symm

/-- What is an exponent behind its letter. -/
def IsPower (t : Octets) : Prop := ∃ s u, IsSign s ∧ IsDigits u ∧ t = s ++ u

theorem IsPower.exponent {e : UInt8} {t : Octets}
    (he : Octets.char e = 'e' ∨ Octets.char e = 'E') (h : IsPower t) : IsExponent (e :: t) := by
  obtain ⟨s, u, hs, hu, rfl⟩ := h
  exact .digits he hs hu

/-- What is a number behind its integer digits. -/
def IsTail (t : Octets) : Prop := ∃ u v, IsFraction u ∧ IsExponent v ∧ t = u ++ v

theorem IsTail.of_exponent {t : Octets} (h : IsExponent t) : IsTail t := ⟨[], t, .none, h, rfl⟩

theorem IsTail.of_fraction {t u : Octets} (ht : IsDigits t) (hu : IsExponent u) :
    IsTail (0x2E :: (t ++ u)) := ⟨0x2E :: t, u, .digits ht, hu, rfl⟩

theorem IsWhole.number {t u : Octets} (ht : IsWhole t) (hu : IsTail u) : IsUnsigned (t ++ u) := by
  obtain ⟨v, w, hv, hw, rfl⟩ := hu
  exact .parts ht hv hw

section Taken

variable {negative : Bool} {n : Nat} {power : Int} {t rest : Octets} {x : Number}

theorem took_floatOf (h : floatOf negative n power t = .ok (x, rest)) : rest = t := by
  unfold floatOf at h
  split at h
  · exact (Prod.mk.inj (Except.ok.inj h)).2.symm
  · cases h

theorem took_takeDigits {count m count' : Nat} (h : takeDigits n count t = (m, count', rest)) :
    Took (fun u => (∀ d ∈ u, isDigit d = true) ∧ count' = count + u.length) t rest := by
  fun_induction takeDigits n count t with
  | case1 n count =>
    obtain ⟨rfl, rfl, rfl⟩ := h
    exact .of_nil ⟨by simp, rfl⟩
  | case2 n count b t hb =>
    obtain ⟨rfl, rfl, rfl⟩ := h
    exact .of_nil ⟨by simp, rfl⟩
  | case3 n count b t d hd _ ih =>
    refine (ih h).cons fun a ⟨ha, hcount⟩ =>
      ⟨List.forall_mem_cons.2 ⟨isDigit_of_digit? hd, ha⟩, ?_⟩
    rw [List.length_cons]
    omega
  | case4 n count b t d hd _ =>
    obtain ⟨rfl, rfl, rfl⟩ := h
    exact .of_nil ⟨by simp, rfl⟩

theorem took_takePower {minus : Bool} {e : Nat}
    (h : takePower negative n power minus e t = .ok (x, rest)) :
    Took (fun u => ∀ d ∈ u, isDigit d = true) t rest := by
  fun_induction takePower negative n power minus e t with
  | case1 | case2 =>
    rw [took_floatOf h]
    exact .of_nil (by simp)
  | case3 e b t d hd _ ih =>
    exact (ih h).cons fun a ha => List.forall_mem_cons.2 ⟨isDigit_of_digit? hd, ha⟩
  | case4 => cases h
  | case5 e b t d hd =>
    obtain ⟨_, rfl⟩ := Prod.mk.inj (Except.ok.inj h)
    exact (took_skipDigits t).cons fun a ha => List.forall_mem_cons.2 ⟨isDigit_of_digit? hd, ha⟩

/-- The digits of a power behind a sign that was taken. -/
theorem took_power_of_sign {u : Octets} (hsign : Took IsSign t u)
    (hdigits : Took IsDigits u rest) : Took IsPower t rest :=
  hsign.append hdigits fun s d hs hd => ⟨s, d, hs, hd, rfl⟩

theorem took_takeExponent (h : takeExponent negative n power t = .ok (x, rest)) :
    Took IsPower t rest := by
  unfold takeExponent at h
  split at h
  rename_i minus u hsign
  have hdigits : Took IsDigits u rest := by
    split at h
    · cases h
    · split at h
      · cases h
      · rename_i d hd
        exact (took_takePower h).cons fun a ha =>
          ⟨by simp, List.forall_mem_cons.2 ⟨isDigit_of_digit? hd, ha⟩⟩
  split at hsign
  · rename_i b v
    split at hsign
    · rename_i hb
      obtain ⟨rfl, rfl⟩ := Prod.mk.inj hsign
      obtain rfl : b = 0x2B := Octets.eq_of_char hb rfl
      exact took_power_of_sign ⟨_, .plus, rfl⟩ hdigits
    · split at hsign
      · rename_i hb
        obtain ⟨rfl, rfl⟩ := Prod.mk.inj hsign
        obtain rfl : b = 0x2D := Octets.eq_of_char hb rfl
        exact took_power_of_sign ⟨_, .minus, rfl⟩ hdigits
      · obtain ⟨rfl, rfl⟩ := Prod.mk.inj hsign
        exact took_power_of_sign (.of_nil .none) hdigits
  · obtain ⟨rfl, rfl⟩ := Prod.mk.inj hsign
    exact took_power_of_sign (.of_nil .none) hdigits

theorem took_takeExponent? (h : takeExponent? negative n power t = .ok (x, rest)) :
    Took IsExponent t rest := by
  unfold takeExponent? at h
  split at h
  · split at h
    · rename_i hletter
      exact (took_takeExponent h).cons fun _ => IsPower.exponent hletter
    · rw [took_floatOf h]
      exact .of_nil .none
  · rw [took_floatOf h]
    exact .of_nil .none

theorem took_takeFraction (h : takeFraction negative n power t = .ok (x, rest)) :
    Took (fun u => IsTail (0x2E :: u)) t rest := by
  unfold takeFraction at h
  split at h
  rename_i m count u hdigits
  have hread := took_takeDigits hdigits
  split at h
  · rename_i hmore
    have hrun : Took IsDigits t (skipDigits u) :=
      hread.append (took_digits hmore) fun a b ⟨ha, _⟩ ⟨hne, hb⟩ =>
        ⟨by simp [hne], List.forall_mem_append.2 ⟨ha, hb⟩⟩
    exact hrun.append (took_takeExponent? h) fun _ _ => IsTail.of_fraction
  · split at h
    · cases h
    · rename_i hcount
      have hrun : Took IsDigits t u := hread.mono fun a ⟨ha, hlength⟩ => by
        refine ⟨?_, ha⟩
        rintro rfl
        exact hcount (by simpa using hlength)
      exact hrun.append (took_takeExponent? h) fun _ _ => IsTail.of_fraction

theorem took_whole {dropped : Nat}
    (h : takeNumberRest.whole negative n dropped t = .ok (x, rest)) : rest = t := by
  unfold takeNumberRest.whole at h
  split at h
  · exact took_floatOf h
  · split at h
    · exact (Prod.mk.inj (Except.ok.inj h)).2.symm
    · split at h
      · exact (Prod.mk.inj (Except.ok.inj h)).2.symm
      · exact took_floatOf h

theorem took_takeNumberRest {dropped : Nat}
    (h : takeNumberRest negative n dropped t = .ok (x, rest)) : Took IsTail t rest := by
  unfold takeNumberRest at h
  split at h
  · rename_i b u
    split at h
    · rename_i hb
      obtain rfl : b = 0x2E := Octets.eq_of_char hb rfl
      exact (took_takeFraction h).cons fun _ hu => hu
    · split at h
      · rename_i hletter
        exact (took_takeExponent h).cons fun _ hu => .of_exponent (hu.exponent hletter)
      · rw [took_whole h]
        exact .of_nil (.of_exponent .none)
  · rw [took_whole h]
    exact .of_nil (.of_exponent .none)

/-- A number is taken as such, but for its sign. -/
theorem took_takeNumber (h : takeNumber negative t = .ok (x, rest)) : Took IsUnsigned t rest := by
  unfold takeNumber at h
  split at h
  · cases h
  · rename_i b u
    split at h
    · cases h
    · rename_i hb
      split at h
      · cases h
      · obtain rfl := eq_zero_of_digit? hb
        exact (took_takeNumberRest h).cons fun a ha => IsWhole.zero.number ha
    · rename_i d hd hb
      split at h
      rename_i m count v hdigits
      have hread : Took (fun a => ∀ d ∈ a, isDigit d = true) u (skipDigits v) :=
        (took_takeDigits hdigits).append (took_skipDigits v) fun a c ⟨ha, _⟩ hc =>
          List.forall_mem_append.2 ⟨ha, hc⟩
      refine (hread.append (took_takeNumberRest h) fun a c ha hc => ?_).cons fun a ha => ha
      exact (IsWhole.digits (isDigit_of_digit? hb) (ne_zero_of_digit? hb hd) ha).number hc

end Taken

section Skipped

variable {t rest : Octets}

theorem took_skipExponent (h : skipExponent t = .ok rest) : Took IsPower t rest := by
  cases t with
  | nil => cases h
  | cons b u =>
    unfold skipExponent at h
    simp only at h
    generalize hbehind : (if Octets.char b = '+' ∨ Octets.char b = '-' then u else b :: u) = v at h
    have hdigits : Took IsDigits v rest := by
      split at h
      · cases h
      · split at h
        · rename_i w hw
          obtain rfl := Except.ok.inj h
          exact (took_skipDigits w).cons fun a ha => ⟨by simp, List.forall_mem_cons.2 ⟨hw, ha⟩⟩
        · cases h
    by_cases hsign : Octets.char b = '+' ∨ Octets.char b = '-'
    · rw [if_pos hsign] at hbehind
      subst hbehind
      rcases hsign with hb | hb
      · obtain rfl : b = 0x2B := Octets.eq_of_char hb rfl
        exact took_power_of_sign ⟨_, .plus, rfl⟩ hdigits
      · obtain rfl : b = 0x2D := Octets.eq_of_char hb rfl
        exact took_power_of_sign ⟨_, .minus, rfl⟩ hdigits
    · rw [if_neg hsign] at hbehind
      subst hbehind
      exact took_power_of_sign (.of_nil .none) hdigits

theorem took_skipExponent? (h : skipExponent? t = .ok rest) : Took IsExponent t rest := by
  unfold skipExponent? at h
  split at h
  · split at h
    · rename_i hletter
      exact (took_skipExponent h).cons fun _ => IsPower.exponent hletter
    · obtain rfl := Except.ok.inj h
      exact .of_nil .none
  · obtain rfl := Except.ok.inj h
    exact .of_nil .none

theorem took_skipNumberRest (h : skipNumberRest t = .ok rest) : Took IsTail t rest := by
  unfold skipNumberRest at h
  split at h
  · rename_i b u
    split at h
    · rename_i hb
      obtain rfl : b = 0x2E := Octets.eq_of_char hb rfl
      split at h
      · rename_i hdigit
        exact ((took_digits hdigit).append (took_skipExponent? h) fun _ _ =>
          IsTail.of_fraction).cons fun _ hu => hu
      · cases h
    · exact (took_skipExponent? h).mono fun _ => IsTail.of_exponent
  · obtain rfl := Except.ok.inj h
    exact .of_nil (.of_exponent .none)

theorem took_skipNumber (h : skipNumber t = .ok rest) : Took IsUnsigned t rest := by
  unfold skipNumber at h
  split at h
  · cases h
  · rename_i b u
    split at h
    · cases h
    · rename_i hb
      split at h
      · cases h
      · obtain rfl := eq_zero_of_digit? hb
        exact (took_skipNumberRest h).cons fun a ha => IsWhole.zero.number ha
    · rename_i d hd hb
      refine ((took_skipDigits u).append (took_skipNumberRest h) fun a c ha hc => ?_).cons
        fun a ha => ha
      exact (IsWhole.digits (isDigit_of_digit? hb) (ne_zero_of_digit? hb hd) ha).number hc

end Skipped

/-! ## ASCII -/

/-- A number has no octet outside of ASCII. -/
theorem IsUnsigned.ascii {t : Octets} (h : IsUnsigned t) : ∀ b ∈ t, b < 0x80 := by
  have hdigit : ∀ {u : Octets}, (∀ d ∈ u, isDigit d = true) → ∀ b ∈ u, b < 0x80 := by
    have hall : ∀ b ∈ digitOctets, b < 0x80 := by decide +kernel
    intro u hu b hb
    exact hall b (mem_digitOctets (hu b hb))
  obtain ⟨whole, fraction, exponent⟩ := h
  refine List.forall_mem_append.2 ⟨?_, List.forall_mem_append.2 ⟨?_, ?_⟩⟩
  · cases whole with
    | zero => simp
    | digits first _ more => exact hdigit (List.forall_mem_cons.2 ⟨first, more⟩)
  · cases fraction with
    | none => simp
    | digits digits => exact List.forall_mem_cons.2 ⟨by decide, hdigit digits.2⟩
  · cases exponent with
    | none => simp
    | @digits e s u letter sign digits =>
      have hletter : e < 0x80 := by
        rcases letter with he | he
        · exact Octets.eq_of_char he (rfl : Octets.char 0x65 = 'e') ▸ by decide
        · exact Octets.eq_of_char he (rfl : Octets.char 0x45 = 'E') ▸ by decide
      have hsign : ∀ b ∈ s, b < 0x80 := by cases sign <;> simp
      exact List.forall_mem_cons.2 ⟨hletter, List.forall_mem_append.2 ⟨hsign, hdigit digits.2⟩⟩

theorem IsBlanks.isText {t : Octets} (h : IsBlanks t) : Octets.IsText t := by
  refine .of_ascii fun b hb => ?_
  have hall : ∀ b ∈ endOctets, b < 0x80 := by decide +kernel
  exact hall b (mem_endOctets_of_isBlank (h b hb))

end Workspaces.Json
