-- The UTF-8 form of a text reads back as that text, and no other octets read as one.
import Workspaces.Text.Octets

namespace Workspaces.Octets

open String (utf8EncodeChar)

/-! ## ASCII -/

theorem char_injective : Function.Injective char := by
  intro a b h
  have hcode : a.toUInt32.toNat = b.toUInt32.toNat := congrArg (fun c => c.val.toNat) h
  exact UInt8.toNat_inj.1 hcode

/-- An octet is told by the character it stands for. -/
theorem eq_of_char {a b : UInt8} {c : Char} (ha : char a = c) (hb : char b = c) : a = b :=
  char_injective (ha.trans hb.symm)

/-! ## Characters -/

/-- The octet goes on with a character that another one began, and gives six bits of it. -/
def Continues (b : UInt8) (bits : Nat) : Prop := b.toNat = 0x80 + bits ∧ bits < 64

/-- The octets from which a character is read, in its shortest form. -/
inductive Form (c : Char) : Octets → Prop
  | one {a : UInt8} (lead : a.toNat < 0x80) (code : c.val.toNat = a.toNat) : Form c [a]
  | two {a b : UInt8} {y : Nat} (lead : 0xC0 ≤ a.toNat ∧ a.toNat < 0xE0) (hb : Continues b y)
      (code : c.val.toNat = (a.toNat - 0xC0) * 64 + y) (least : 0x80 ≤ c.val.toNat) :
      Form c [a, b]
  | three {a b d : UInt8} {y z : Nat} (lead : 0xE0 ≤ a.toNat ∧ a.toNat < 0xF0)
      (hb : Continues b y) (hd : Continues d z)
      (code : c.val.toNat = ((a.toNat - 0xE0) * 64 + y) * 64 + z) (least : 0x800 ≤ c.val.toNat) :
      Form c [a, b, d]
  | four {a b d e : UInt8} {x y z : Nat} (lead : 0xF0 ≤ a.toNat ∧ a.toNat < 0xF8)
      (hb : Continues b x) (hd : Continues d y) (he : Continues e z)
      (code : c.val.toNat = (((a.toNat - 0xF0) * 64 + x) * 64 + y) * 64 + z)
      (least : 0x10000 ≤ c.val.toNat) : Form c [a, b, d, e]

theorem continuation?_eq_some_iff (b : UInt8) (bits : Nat) :
    continuation? b = some bits ↔ Continues b bits := by
  unfold continuation? Continues
  simp only [UInt8.le_iff_toNat_le, UInt8.lt_iff_toNat_lt, UInt8.reduceToNat]
  split
  · rw [Option.some.injEq]
    omega
  · simp only [reduceCtorEq, false_iff]
    omega

theorem scalar?_eq_some_iff (least code : Nat) (c : Char) :
    scalar? least code = some c ↔ c.val.toNat = code ∧ least ≤ code := by
  unfold scalar?
  constructor
  · intro h
    by_cases hvalid : code.isValidChar ∧ least ≤ code
    · rw [dif_pos hvalid] at h
      obtain rfl := Option.some.inj h
      exact ⟨rfl, hvalid.2⟩
    · rw [dif_neg hvalid] at h
      cases h
  · rintro ⟨rfl, hleast⟩
    rw [dif_pos ⟨c.valid, hleast⟩]
    rfl

namespace Form

variable {c : Char} {t : Octets}

/-- A character has one form. -/
theorem eq_utf8EncodeChar (h : Form c t) : t = utf8EncodeChar c := by
  unfold utf8EncodeChar
  simp only
  cases h with
  | one lead code => rw [if_pos (by omega), code, UInt8.ofNat_toNat]
  | two lead hb code least =>
    unfold Continues at hb
    rw [if_neg (by omega), if_pos (by omega)]
    simp only [List.cons.injEq, and_true, ← UInt8.toNat_inj, UInt8.toNat_ofNat']
    omega
  | three lead hb hd code least =>
    unfold Continues at hb hd
    rw [if_neg (by omega), if_neg (by omega), if_pos (by omega)]
    simp only [List.cons.injEq, and_true, ← UInt8.toNat_inj, UInt8.toNat_ofNat']
    omega
  | four lead hb hd he code least =>
    unfold Continues at hb hd he
    rw [if_neg (by omega), if_neg (by omega), if_neg (by omega)]
    simp only [List.cons.injEq, and_true, ← UInt8.toNat_inj, UInt8.toNat_ofNat']
    omega

/-- Every character has a form. -/
theorem of_char (c : Char) : Form c (utf8EncodeChar c) := by
  have hvalid : c.val.toNat < 0x110000 := by
    have hrange := c.valid
    unfold UInt32.isValidChar Nat.isValidChar at hrange
    omega
  have hbits : ∀ n, Continues (UInt8.ofNat (n % 0x40 + 0x80)) (n % 64) := by
    intro n
    unfold Continues
    rw [UInt8.toNat_ofNat']
    omega
  unfold utf8EncodeChar
  simp only
  split
  · refine .one ?_ ?_
    · rw [UInt8.toNat_ofNat']
      omega
    · rw [UInt8.toNat_ofNat']
      omega
  · split
    · refine .two ?_ (hbits _) ?_ (by omega)
      · rw [UInt8.toNat_ofNat']
        omega
      · rw [UInt8.toNat_ofNat']
        omega
    · split
      · refine .three ?_ (hbits _) (hbits _) ?_ (by omega)
        · rw [UInt8.toNat_ofNat']
          omega
        · rw [UInt8.toNat_ofNat']
          omega
      · refine .four ?_ (hbits _) (hbits _) (hbits _) ?_ (by omega)
        · rw [UInt8.toNat_ofNat']
          omega
        · rw [UInt8.toNat_ofNat']
          omega

/-- Only the first octet of a character can be one that begins a character. -/
theorem shape (h : Form c t) :
    ∃ b u, t = b :: u ∧ (∀ bits, ¬ Continues b bits) ∧ ∀ d ∈ u, ∃ bits, Continues d bits := by
  cases h with
  | one lead code => exact ⟨_, _, rfl, by unfold Continues; omega, by simp⟩
  | two lead hb code least =>
    exact ⟨_, _, rfl, by unfold Continues; omega, by simpa using ⟨_, hb⟩⟩
  | three lead hb hd code least =>
    exact ⟨_, _, rfl, by unfold Continues; omega, by simpa using ⟨⟨_, hb⟩, _, hd⟩⟩
  | four lead hb hd he code least =>
    exact ⟨_, _, rfl, by unfold Continues; omega, by simpa using ⟨⟨_, hb⟩, ⟨_, hd⟩, _, he⟩⟩

/-- The first octet of a character stands for no other character of ASCII. -/
theorem char_ne {d : Char} {b : UInt8} (h : Form c (b :: t)) (hd : d.val.toNat < 0x80)
    (hne : c ≠ d) : char b ≠ d := by
  rintro rfl
  have hb : b.toNat < 0x80 := hd
  cases h with
  | one lead code => exact hne (Char.ext (UInt32.toNat_inj.1 code))
  | two lead => omega
  | three lead => omega
  | four lead => omega

/-- A character is read from its form, whatever stands behind that. -/
theorem charsOnto_append (h : Form c t) (done : List Char) (rest : Octets) :
    charsOnto done (t ++ rest) = charsOnto (c :: done) rest := by
  cases h with
  | @one a lead code =>
    have hc : Char.ofUInt8 a = c := Char.ext (UInt32.toNat_inj.1 code.symm)
    rw [List.singleton_append, charsOnto.eq_def]
    simp only
    rw [if_pos (UInt8.lt_iff_toNat_lt.2 lead), hc]
  | @two a b y lead hb code least =>
    have hscalar := (scalar?_eq_some_iff 0x80 _ c).2 ⟨code, by omega⟩
    simp only [List.cons_append, List.nil_append]
    rw [charsOnto, if_neg, if_neg, if_pos]
    · simp only [(continuation?_eq_some_iff _ _).2 hb, hscalar]
    all_goals simp only [UInt8.lt_iff_toNat_lt, UInt8.reduceToNat]; omega
  | @three a b d y z lead hb hd code least =>
    have hscalar := (scalar?_eq_some_iff 0x800 _ c).2 ⟨code, by omega⟩
    simp only [List.cons_append, List.nil_append]
    rw [charsOnto, if_neg, if_neg, if_neg, if_pos]
    · simp only [(continuation?_eq_some_iff _ _).2 hb, (continuation?_eq_some_iff _ _).2 hd,
        hscalar]
    all_goals simp only [UInt8.lt_iff_toNat_lt, UInt8.reduceToNat]; omega
  | @four a b d e x y z lead hb hd he code least =>
    have hscalar := (scalar?_eq_some_iff 0x10000 _ c).2 ⟨code, by omega⟩
    simp only [List.cons_append, List.nil_append]
    rw [charsOnto, if_neg, if_neg, if_neg, if_neg, if_pos]
    · simp only [(continuation?_eq_some_iff _ _).2 hb, (continuation?_eq_some_iff _ _).2 hd,
        (continuation?_eq_some_iff _ _).2 he, hscalar]
    all_goals simp only [UInt8.lt_iff_toNat_lt, UInt8.reduceToNat]; omega

end Form

/-! ## Texts -/

/-- The octets are the UTF-8 form of some text. -/
def IsText (t : Octets) : Prop := ∃ cs : List Char, t = ofChars cs

theorem ofChars_cons (c : Char) (cs : List Char) :
    ofChars (c :: cs) = utf8EncodeChar c ++ ofChars cs := rfl

theorem ofChars_append (cs ds : List Char) : ofChars (cs ++ ds) = ofChars cs ++ ofChars ds :=
  List.flatMap_append

/-- A text of ASCII has an octet for each of its characters. -/
theorem ofChars_ascii {cs : List Char} (h : ∀ c ∈ cs, c.val.toNat < 0x80) :
    ofChars cs = cs.map fun c => UInt8.ofNat c.val.toNat := by
  induction cs with
  | nil => rfl
  | cons c cs ih =>
    obtain ⟨hc, hcs⟩ := List.forall_mem_cons.1 h
    have hform : Form c [UInt8.ofNat c.val.toNat] := by
      refine .one ?_ ?_ <;> rw [UInt8.toNat_ofNat'] <;> omega
    rw [ofChars_cons, ← hform.eq_utf8EncodeChar, ih hcs]
    rfl

/-- Octets of ASCII are the form of the characters that they stand for. -/
theorem ofChars_map_char {t : Octets} (h : ∀ b ∈ t, b < 0x80) : ofChars (t.map char) = t := by
  induction t with
  | nil => rfl
  | cons b t ih =>
    obtain ⟨hb, ht⟩ := List.forall_mem_cons.1 h
    have hform : Form (char b) [b] := .one (UInt8.lt_iff_toNat_lt.1 hb) rfl
    rw [List.map_cons, ofChars_cons, ← hform.eq_utf8EncodeChar, ih ht]
    rfl

theorem charsOnto_ofChars (done cs : List Char) (t : Octets) :
    charsOnto done (ofChars cs ++ t) = charsOnto (cs.reverse ++ done) t := by
  induction cs generalizing done with
  | nil => rfl
  | cons c cs ih =>
    rw [ofChars_cons, List.append_assoc, (Form.of_char c).charsOnto_append, ih]
    simp

/-- What is read behind a form is read with its character in front. -/
theorem Form.exists_eq_ofChars {c : Char} {u t : Octets} {done cs : List Char} (h : Form c u)
    (ht : ∃ ds, cs = (c :: done).reverse ++ ds ∧ t = ofChars ds) :
    ∃ ds, cs = done.reverse ++ ds ∧ u ++ t = ofChars ds := by
  obtain ⟨ds, hcs, rfl⟩ := ht
  refine ⟨c :: ds, by simpa using hcs, ?_⟩
  rw [ofChars_cons, h.eq_utf8EncodeChar]

/-- What is read from octets has them for its UTF-8 form. -/
theorem eq_ofChars_of_charsOnto {done cs : List Char} {t : Octets}
    (h : charsOnto done t = some cs) : ∃ ds, cs = done.reverse ++ ds ∧ t = ofChars ds := by
  fun_induction charsOnto done t generalizing cs with
  | case1 done => exact ⟨[], by simpa using h.symm, rfl⟩
  | case2 done a rest ha ih =>
    exact (Form.one (UInt8.lt_iff_toNat_lt.1 ha) rfl).exists_eq_ofChars (ih h)
  | case4 done a _ hlow hhigh b rest y hb c hc ih =>
    simp only [UInt8.lt_iff_toNat_lt, UInt8.reduceToNat] at hlow hhigh
    obtain ⟨hcode, hleast⟩ := (scalar?_eq_some_iff _ _ _).1 hc
    exact (Form.two ⟨by omega, hhigh⟩ ((continuation?_eq_some_iff _ _).1 hb) hcode
      (by omega)).exists_eq_ofChars (ih h)
  | case8 done a _ _ hlow hhigh b d rest y z hd hb c hc ih =>
    simp only [UInt8.lt_iff_toNat_lt, UInt8.reduceToNat] at hlow hhigh
    obtain ⟨hcode, hleast⟩ := (scalar?_eq_some_iff _ _ _).1 hc
    exact (Form.three ⟨by omega, hhigh⟩ ((continuation?_eq_some_iff _ _).1 hb)
      ((continuation?_eq_some_iff _ _).1 hd) hcode (by omega)).exists_eq_ofChars (ih h)
  | case12 done a _ _ _ hlow hhigh b d e rest x y z he hd hb c hc ih =>
    simp only [UInt8.lt_iff_toNat_lt, UInt8.reduceToNat] at hlow hhigh
    obtain ⟨hcode, hleast⟩ := (scalar?_eq_some_iff _ _ _).1 hc
    exact (Form.four ⟨by omega, hhigh⟩ ((continuation?_eq_some_iff _ _).1 hb)
      ((continuation?_eq_some_iff _ _).1 hd) ((continuation?_eq_some_iff _ _).1 he) hcode
      (by omega)).exists_eq_ofChars (ih h)
  | case3 | case5 | case6 | case7 | case9 | case10 | case11 | case13 | case14 | case15 | case16 =>
    cases h

theorem chars?_eq_some_iff (t : Octets) (cs : List Char) :
    chars? t = some cs ↔ t = ofChars cs := by
  constructor
  · intro h
    obtain ⟨ds, rfl, ht⟩ := eq_ofChars_of_charsOnto h
    exact ht
  · rintro rfl
    have hread := charsOnto_ofChars [] cs []
    rw [List.append_nil] at hread
    unfold chars?
    rw [hread, charsOnto, List.append_nil, List.reverse_reverse]

/-- A text is told by its form. -/
theorem ofString_inj {s u : String} (h : ofString s = ofString u) : s = u := by
  have hs := (chars?_eq_some_iff _ _).2 (rfl : ofString s = ofChars s.toList)
  have hu := (chars?_eq_some_iff _ _).2 (rfl : ofString u = ofChars u.toList)
  rw [h, hu] at hs
  exact String.toList_inj.1 (Option.some.inj hs).symm

theorem isText_iff (t : Octets) : IsText t ↔ (text? t).isSome = true := by
  unfold IsText text?
  rw [Option.isSome_map, Option.isSome_iff_exists]
  exact exists_congr fun cs => (chars?_eq_some_iff t cs).symm

instance (t : Octets) : Decidable (IsText t) := decidable_of_iff _ (isText_iff t).symm

namespace IsText

variable {t u : Octets}

theorem nil : IsText [] := ⟨[], rfl⟩

theorem append (ht : IsText t) (hu : IsText u) : IsText (t ++ u) := by
  obtain ⟨cs, rfl⟩ := ht
  obtain ⟨ds, rfl⟩ := hu
  exact ⟨cs ++ ds, (ofChars_append cs ds).symm⟩

theorem utf8EncodeChar (c : Char) : IsText (utf8EncodeChar c) := ⟨[c], by simp [ofChars]⟩

/-- Behind a text stands a text, or the whole is none. -/
theorem of_append (ht : IsText t) (h : IsText (t ++ u)) : IsText u := by
  obtain ⟨cs, rfl⟩ := ht
  obtain ⟨ds, h⟩ := h
  have hread : charsOnto [] (ofChars cs ++ u) = some ds := (chars?_eq_some_iff _ ds).2 h
  rw [charsOnto_ofChars] at hread
  obtain ⟨es, _, hu⟩ := eq_ofChars_of_charsOnto hread
  exact ⟨es, hu⟩

/-- A text can be parted in front of an octet that goes on with no character. -/
theorem of_append_cons {b : UInt8} (hb : ∀ bits, ¬ Continues b bits) (h : IsText (t ++ b :: u)) :
    IsText t := by
  obtain ⟨cs, h⟩ := h
  induction cs generalizing t with
  | nil => simp [ofChars] at h
  | cons c cs ih =>
    obtain ⟨a, v, hform, _, hv⟩ := (Form.of_char c).shape
    rw [ofChars_cons] at h
    rcases List.append_eq_append_iff.1 h with ⟨w, hc, hw⟩ | ⟨w, rfl, hw⟩
    · -- The octet stands in the form of `c`, so it is the first one there.
      cases t with
      | nil => exact nil
      | cons d t =>
        cases w with
        | nil => exact ⟨[c], by simpa [ofChars] using hc.symm⟩
        | cons e w =>
          obtain ⟨rfl, _⟩ := List.cons.inj hw
          rw [hform, List.cons_append] at hc
          obtain ⟨bits, hbits⟩ := hv b (by simp [(List.cons.inj hc).2])
          exact absurd hbits (hb bits)
    · exact (utf8EncodeChar c).append (ih hw.symm)

/-- A text can be parted around any of its characters. -/
theorem split_utf8EncodeChar {c : Char} (h : IsText (t ++ (String.utf8EncodeChar c ++ u))) :
    IsText t ∧ IsText u := by
  obtain ⟨b, v, hform, hb, _⟩ := (Form.of_char c).shape
  have ht : IsText t := by
    rw [hform, List.cons_append] at h
    exact of_append_cons hb h
  exact ⟨ht, (utf8EncodeChar c).of_append (ht.of_append h)⟩

/-- Octets of ASCII are a text. -/
theorem of_ascii (h : ∀ b ∈ t, b < 0x80) : IsText t := ⟨t.map char, (ofChars_map_char h).symm⟩

end IsText

end Workspaces.Octets
