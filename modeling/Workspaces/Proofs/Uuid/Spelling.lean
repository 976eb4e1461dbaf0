-- The spellings of an identifier: what is read from a text is the identifier that the text spells,
-- and each of them is spelled as bare digits, in groups, in braces or behind `urn:uuid:`.
import Mathlib.Data.List.Induction
import Workspaces.Proofs.Text.Utf8
import Workspaces.Proofs.Uuid.Text
import Workspaces.Uuid.Spelling

namespace Workspaces.Uuid

open Octets (lower ofChars)

/-! ## Digits -/

theorem hexDigit?_eq_some_iff (b : UInt8) (k : Nat) : Octets.hexDigit? b = some k ↔
    k < 16 ∧ ofChars [Json.hexChar k] = [lower b] := by
  have hread : ∀ n : Fin 256, ∀ k ∈ Octets.hexDigit? (UInt8.ofFin n),
      k < 16 ∧ ofChars [Json.hexChar k] = [lower (UInt8.ofFin n)] := by
    decide +kernel
  have hwrite : ∀ n : Fin 256, ∀ k : Fin 16,
      ofChars [Json.hexChar k] = [lower (UInt8.ofFin n)] →
        Octets.hexDigit? (UInt8.ofFin n) = some k.val := by
    decide +kernel
  exact ⟨fun h => hread b.toFin k h, fun ⟨hk, h⟩ => hwrite b.toFin ⟨k, hk⟩ h⟩

theorem hexChars_ascii (count n : Nat) : ∀ c ∈ hexChars count n, c.val.toNat < 0x80 := by
  intro c hc
  obtain ⟨k, hk, rfl⟩ := mem_hexChars count n c hc
  have hall : ∀ k < 16, (Json.hexChar k).val.toNat < 0x80 := by decide
  exact hall k hk

theorem length_hexChars (count n : Nat) : (hexChars count n).length = count := by
  induction count with
  | zero => rfl
  | succ count ih => rw [hexChars, List.length_cons, ih]

/-- The last digit of a number is what is left of it by sixteen. -/
theorem hexChars_append (count n d : Nat) (hd : d < 16) :
    hexChars (count + 1) (16 * n + d) = hexChars count n ++ [Json.hexChar d] := by
  induction count with
  | zero =>
    have hlast : (16 * n + d) % 16 = d := by omega
    simp [hexChars, hlast]
  | succ count ih =>
    have hfirst : (16 * n + d) >>> (4 * (count + 1)) = n >>> (4 * count) := by
      rw [Nat.mul_succ, Nat.add_comm (4 * count) 4, Nat.shiftRight_add]
      congr 1
      rw [Nat.shiftRight_eq_div_pow]
      omega
    rw [hexChars, hfirst, ih]
    rfl

/-- The digits of a number tell it, whichever case they are of. -/
theorem hexValue?_eq_some_iff (t : Octets) (n : Nat) : hexValue? t = some n ↔
    n < 16 ^ t.length ∧ t.map lower = ofChars (hexChars t.length n) := by
  induction t using List.reverseRecOn generalizing n with
  | nil =>
    simp [hexValue?, hexChars, ofChars]
    omega
  | append_singleton t b ih =>
    have hvalue : hexValue? (t ++ [b]) = some n ↔
        ∃ m d, hexValue? t = some m ∧ Octets.hexDigit? b = some d ∧ 16 * m + d = n := by
      unfold hexValue?
      rw [List.foldl_append]
      simp [Option.bind_eq_some_iff]
    have hlower : (t ++ [b]).map lower = t.map lower ++ [lower b] := List.map_append
    have hlength : (t ++ [b]).length = t.length + 1 := List.length_append
    rw [hvalue, hlower, hlength]
    constructor
    · rintro ⟨m, d, hm, hd, rfl⟩
      obtain ⟨hfits, ht⟩ := (ih m).1 hm
      obtain ⟨hd, hb⟩ := (hexDigit?_eq_some_iff b d).1 hd
      refine ⟨by rw [Nat.pow_succ]; omega, ?_⟩
      rw [hexChars_append _ _ _ hd, Octets.ofChars_append, ht, hb]
    · rintro ⟨hfits, hdigits⟩
      have hlast : n % 16 < 16 := Nat.mod_lt _ (by decide)
      have hsplit : 16 * (n / 16) + n % 16 = n := Nat.div_add_mod n 16
      rw [← hsplit, hexChars_append _ _ _ hlast, Octets.ofChars_append] at hdigits
      have hone : ∀ d < 16, (ofChars [Json.hexChar d]).length = 1 := by decide +kernel
      obtain ⟨ht, hb⟩ := List.append_inj' hdigits (hone _ hlast).symm
      have hless : n / 16 < 16 ^ t.length := by
        rw [Nat.pow_succ] at hfits
        omega
      exact ⟨n / 16, n % 16, (ih _).2 ⟨hless, ht⟩,
        (hexDigit?_eq_some_iff b _).2 ⟨hlast, hb.symm⟩, hsplit⟩

/-- The digits of the identifier as octets. -/
def digits (u : Uuid) : Octets := ofChars (hexChars 32 u.bits.toNat)

theorem length_digits (u : Uuid) : u.digits.length = 32 := by
  unfold digits
  rw [Octets.ofChars_ascii (hexChars_ascii _ _), List.length_map, length_hexChars]

theorem ofBare?_eq_some_iff (t : Octets) (u : Uuid) :
    ofBare? t = some u ↔ t.map lower = u.digits := by
  unfold ofBare?
  constructor
  · intro h
    split at h
    · rename_i hlength
      obtain ⟨n, hn, rfl⟩ := Option.map_eq_some_iff.1 h
      obtain ⟨hfits, ht⟩ := (hexValue?_eq_some_iff t n).1 hn
      rw [hlength] at hfits ht
      have hbits : (BitVec.ofNat 128 n).toNat = n := by
        rw [BitVec.toNat_ofNat]
        exact Nat.mod_eq_of_lt hfits
      unfold digits
      rw [ht, hbits]
    · cases h
  · intro h
    have hlength : t.length = 32 := by
      have hsame := congrArg List.length h
      rwa [List.length_map, length_digits] at hsame
    have hvalue : hexValue? t = some u.bits.toNat := by
      rw [hexValue?_eq_some_iff, hlength]
      exact ⟨u.bits.isLt, h⟩
    rw [if_pos hlength, hvalue, Option.map_some, BitVec.ofNat_toNat]
    rfl

/-! ## Groups -/

theorem lower_eq_hyphen_iff (b : UInt8) : lower b = 0x2D ↔ b = 0x2D := by
  have hall : ∀ n : Fin 256, lower (UInt8.ofFin n) = 0x2D ↔ UInt8.ofFin n = 0x2D := by
    decide +kernel
  exact hall b.toFin

theorem char_eq_hyphen_iff (b : UInt8) : Octets.char b = '-' ↔ b = 0x2D :=
  ⟨fun h => Octets.eq_of_char h rfl, fun h => h ▸ rfl⟩

theorem chars_ascii (u : Uuid) : ∀ c ∈ u.chars, c.val.toNat < 0x80 := by
  intro c hc
  rcases mem_chars u c hc with rfl | hc
  · decide
  · exact hexChars_ascii _ _ c hc

/-- The groups of the identifier as octets. -/
def groups (u : Uuid) : Octets := ofChars u.chars

/-- The digits with hyphens between them are the groups. -/
theorem groups_eq (u : Uuid) : u.groups = u.digits.take 8 ++ 0x2D :: ((u.digits.drop 8).take 4 ++
    0x2D :: ((u.digits.drop 12).take 4 ++ 0x2D :: ((u.digits.drop 16).take 4 ++
      0x2D :: u.digits.drop 20))) := by
  unfold groups digits
  rw [Octets.ofChars_ascii (chars_ascii u), Octets.ofChars_ascii (hexChars_ascii _ _)]
  unfold chars
  simp only [List.map_append, List.map_cons, List.map_take, List.map_drop]
  rfl

theorem groups_of_parts {u : Uuid} {a b c d e : Octets} (ha : a.length = 8) (hb : b.length = 4)
    (hc : c.length = 4) (hd : d.length = 4) (h : u.digits = a ++ (b ++ (c ++ (d ++ e)))) :
    u.groups = a ++ 0x2D :: (b ++ 0x2D :: (c ++ 0x2D :: (d ++ 0x2D :: e))) := by
  have h8 : u.digits.drop 8 = b ++ (c ++ (d ++ e)) := by
    rw [h]
    exact List.drop_left' ha
  have h12 : u.digits.drop 12 = c ++ (d ++ e) := by
    rw [← List.drop_drop (i := 4) (j := 8), h8]
    exact List.drop_left' hb
  have h16 : u.digits.drop 16 = d ++ e := by
    rw [← List.drop_drop (i := 4) (j := 12), h12]
    exact List.drop_left' hc
  have h20 : u.digits.drop 20 = e := by
    rw [← List.drop_drop (i := 4) (j := 16), h16]
    exact List.drop_left' hd
  rw [groups_eq, h8, h12, h16, h20, h, List.take_left' ha, List.take_left' hb, List.take_left' hc,
    List.take_left' hd]

theorem length_groups (u : Uuid) : u.groups.length = 36 := by
  rw [groups_eq]
  simp [length_digits]

theorem hyphens_of_groups (u : Uuid) : u.groups[8]? = some 0x2D ∧ u.groups[13]? = some 0x2D ∧
    u.groups[18]? = some 0x2D ∧ u.groups[23]? = some 0x2D := by
  rw [groups_eq]
  simp [length_digits]

/-- Without their hyphens the groups are the digits. -/
theorem filter_groups (u : Uuid) : u.groups.filter (· ≠ 0x2D) = u.digits := by
  have hall : ∀ k < 16, UInt8.ofNat (Json.hexChar k).val.toNat ≠ 0x2D := by decide
  have hsame : ∀ c ∈ u.chars, decide (UInt8.ofNat c.val.toNat ≠ 0x2D) = decide (c ≠ '-') := by
    intro c hc
    rcases mem_chars u c hc with rfl | hc
    · rfl
    · have hdash := hexChars_ne_dash 32 _ c hc
      obtain ⟨k, hk, rfl⟩ := mem_hexChars 32 _ c hc
      rw [decide_eq_true (hall k hk), decide_eq_true hdash]
  unfold groups digits
  rw [Octets.ofChars_ascii (chars_ascii u), Octets.ofChars_ascii (hexChars_ascii _ _),
    List.filter_map, ← filter_chars]
  congr 1
  exact List.filter_congr hsame

/-- Whether there is a hyphen at a place. -/
theorem any_hyphen_iff (b? : Option UInt8) :
    (b?.any fun b => Octets.char b = '-') = true ↔ b? = some 0x2D := by
  cases b? with
  | none => simp
  | some b =>
    rw [Option.any_some, decide_eq_true_eq, char_eq_hyphen_iff, Option.some.injEq]

theorem drop_of_getElem? {t : Octets} {i : Nat} {b : UInt8} (h : t[i]? = some b) :
    t.drop i = b :: t.drop (i + 1) := by
  obtain ⟨hlt, rfl⟩ := List.getElem?_eq_some_iff.1 h
  exact (List.getElem_cons_drop hlt).symm

/-- Octets with hyphens where those of the groups are. -/
theorem parts_of_hyphens {t : Octets} (hlength : t.length = 36) (h8 : t[8]? = some 0x2D)
    (h13 : t[13]? = some 0x2D) (h18 : t[18]? = some 0x2D) (h23 : t[23]? = some 0x2D) :
    ∃ a b c d e, t = a ++ 0x2D :: (b ++ 0x2D :: (c ++ 0x2D :: (d ++ 0x2D :: e))) ∧
      a.length = 8 ∧ b.length = 4 ∧ c.length = 4 ∧ d.length = 4 ∧ e.length = 12 := by
  have hgroup : ∀ i, t.drop i = (t.drop i).take 4 ++ t.drop (i + 4) := by
    intro i
    rw [← List.drop_drop, List.take_append_drop]
  refine ⟨t.take 8, (t.drop 9).take 4, (t.drop 14).take 4, (t.drop 19).take 4, t.drop 24, ?_, ?_⟩
  · rw [← drop_of_getElem? h23, ← hgroup 19, ← drop_of_getElem? h18, ← hgroup 14,
      ← drop_of_getElem? h13, ← hgroup 9, ← drop_of_getElem? h8, List.take_append_drop]
  · simp [hlength]

theorem ofGroups?_eq_some_iff (t : Octets) (u : Uuid) :
    ofGroups? t = some u ↔ t.map lower = u.groups := by
  unfold ofGroups?
  simp only [any_hyphen_iff]
  constructor
  · intro h
    split at h
    · rename_i hplaces
      obtain ⟨hlength, h8, h13, h18, h23⟩ := hplaces
      obtain ⟨a, b, c, d, e, rfl, ha, hb, hc, hd, he⟩ :=
        parts_of_hyphens hlength h8 h13 h18 h23
      have hfilter : (a ++ 0x2D :: (b ++ 0x2D :: (c ++ 0x2D :: (d ++ 0x2D :: e)))).filter
          (fun x => Octets.char x ≠ '-') =
            (a ++ (b ++ (c ++ (d ++ e)))).filter fun x => Octets.char x ≠ '-' := by
        simp [char_eq_hyphen_iff]
      rw [ofBare?_eq_some_iff, hfilter] at h
      -- The groups have as many octets as there are digits, so none of them is a hyphen.
      have hkept : (a ++ (b ++ (c ++ (d ++ e)))).filter (fun x => Octets.char x ≠ '-') =
          a ++ (b ++ (c ++ (d ++ e))) := by
        apply List.filter_sublist.eq_of_length
        rw [← List.length_map lower, h, length_digits]
        simp [ha, hb, hc, hd, he]
      rw [hkept] at h
      simp only [List.map_append] at h
      rw [groups_of_parts (by simpa) (by simpa) (by simpa) (by simpa) h.symm]
      simp only [List.map_append, List.map_cons]
      rfl
    · cases h
  · intro h
    have hlength : t.length = 36 := by
      have hsame := congrArg List.length h
      rwa [List.length_map, length_groups] at hsame
    have hplace : ∀ i : Nat, u.groups[i]? = some 0x2D → t[i]? = some 0x2D := by
      intro i hi
      rw [← h, List.getElem?_map] at hi
      obtain ⟨b, hb, hlower⟩ := Option.map_eq_some_iff.1 hi
      rw [hb, (lower_eq_hyphen_iff b).1 hlower]
    have hdigits : (t.filter fun b => Octets.char b ≠ '-').map lower = u.digits := by
      rw [← filter_groups, ← h, List.filter_map]
      congr 1
      refine List.filter_congr fun b _ => ?_
      change decide (Octets.char b ≠ '-') = decide (lower b ≠ 0x2D)
      simp only [ne_eq, char_eq_hyphen_iff, lower_eq_hyphen_iff]
    obtain ⟨h8, h13, h18, h23⟩ := hyphens_of_groups u
    rw [if_pos ⟨hlength, hplace 8 h8, hplace 13 h13, hplace 18 h18, hplace 23 h23⟩]
    exact (ofBare?_eq_some_iff _ u).2 hdigits

/-! ## Spellings -/

/-- The octets spell the identifier, in letters of either case. -/
inductive Spelling (u : Uuid) : Octets → Prop
  | bare {t : Octets} (digits : t.map lower = u.digits) : Spelling u t
  | groups {t : Octets} (groups : t.map lower = u.groups) : Spelling u t
  | braces {t : Octets} (groups : t.map lower = u.groups) : Spelling u (0x7B :: (t ++ [0x7D]))
  | urn {label t : Octets} (urn : label.map lower = Octets.ofString "urn:uuid:")
      (groups : t.map lower = u.groups) : Spelling u (label ++ t)

theorem unbraced?_eq_some_iff (t inner : Octets) :
    unbraced? t = some inner ↔ t = 0x7B :: (inner ++ [0x7D]) := by
  constructor
  · intro h
    unfold unbraced? at h
    split at h
    · rename_i b rest
      split at h
      · rename_i hbraces
        obtain ⟨hb, hlast⟩ := hbraces
        obtain rfl := Option.some.inj h
        obtain rfl : b = 0x7B := Octets.eq_of_char hb rfl
        rw [Option.any_eq_true] at hlast
        obtain ⟨e, he, hclose⟩ := hlast
        obtain rfl : e = 0x7D := Octets.eq_of_char (of_decide_eq_true hclose) rfl
        rw [List.dropLast_append_getLast? 0x7D he]
      · cases h
    · cases h
  · rintro rfl
    unfold unbraced?
    simp only [List.getLast?_append, List.dropLast_concat]
    rfl

theorem afterUrn?_eq_some_iff (t rest : Octets) : afterUrn? t = some rest ↔
    ∃ label, label.map lower = Octets.ofString "urn:uuid:" ∧ t = label ++ rest := by
  unfold afterUrn?
  constructor
  · intro h
    split at h
    · rename_i hlabel
      obtain rfl := Option.some.inj h
      exact ⟨t.take 9, hlabel, (List.take_append_drop 9 t).symm⟩
    · cases h
  · rintro ⟨label, hlabel, rfl⟩
    have hlength : label.length = 9 := by
      rw [← List.length_map lower, hlabel]
      rfl
    rw [List.take_left' hlength, List.drop_left' hlength, if_pos hlabel]

theorem length_of_lower {t w : Octets} {n : Nat} (h : t.map lower = w) (hw : w.length = n) :
    t.length = n := by
  rw [← List.length_map lower, h, hw]

/-- An identifier is read from exactly the texts that spell it. -/
theorem ofOctets?_eq_some_iff (t : Octets) (u : Uuid) : ofOctets? t = some u ↔ u.Spelling t := by
  constructor
  · intro h
    unfold ofOctets? at h
    split at h
    · exact .bare ((ofBare?_eq_some_iff t u).1 h)
    · split at h
      · exact .groups ((ofGroups?_eq_some_iff t u).1 h)
      · split at h
        · obtain ⟨inner, hinner, hu⟩ := Option.bind_eq_some_iff.1 h
          obtain rfl := (unbraced?_eq_some_iff t inner).1 hinner
          exact .braces ((ofGroups?_eq_some_iff inner u).1 hu)
        · split at h
          · obtain ⟨rest, hrest, hu⟩ := Option.bind_eq_some_iff.1 h
            obtain ⟨label, hlabel, rfl⟩ := (afterUrn?_eq_some_iff t rest).1 hrest
            exact .urn hlabel ((ofGroups?_eq_some_iff rest u).1 hu)
          · cases h
  · intro h
    unfold ofOctets?
    cases h with
    | bare digits =>
      rw [if_pos (length_of_lower digits (length_digits u))]
      exact (ofBare?_eq_some_iff _ u).2 digits
    | groups groups =>
      have hlength := length_of_lower groups (length_groups u)
      rw [if_neg (by omega), if_pos hlength]
      exact (ofGroups?_eq_some_iff _ u).2 groups
    | @braces inner groups =>
      have hinner := length_of_lower groups (length_groups u)
      have hlength : (0x7B :: (inner ++ [0x7D])).length = 38 := by simp [hinner]
      rw [if_neg (by omega), if_neg (by omega), if_pos hlength,
        (unbraced?_eq_some_iff _ inner).2 rfl, Option.bind_some]
      exact (ofGroups?_eq_some_iff inner u).2 groups
    | @urn label rest urn groups =>
      have hrest := length_of_lower groups (length_groups u)
      have hlabel := length_of_lower (n := 9) urn rfl
      have hlength : (label ++ rest).length = 45 := by simp [hlabel, hrest]
      rw [if_neg (by omega), if_neg (by omega), if_neg (by omega), if_pos hlength,
        (afterUrn?_eq_some_iff _ rest).2 ⟨label, urn, rfl⟩, Option.bind_some]
      exact (ofGroups?_eq_some_iff rest u).2 groups

/-- A text spells one identifier at most. -/
theorem Spelling.unique {t : Octets} {u v : Uuid} (hu : u.Spelling t) (hv : v.Spelling t) :
    u = v := by
  rw [← ofOctets?_eq_some_iff] at hu hv
  exact Option.some.inj (hu.symm.trans hv)

/-- What spells an identifier is ASCII. -/
theorem Spelling.isText {t : Octets} {u : Uuid} (h : u.Spelling t) : Octets.IsText t := by
  have hlower : ∀ {w : Octets} {cs : List Char}, (∀ c ∈ cs, c.val.toNat < 0x80) →
      w.map lower = ofChars cs → Octets.IsText w := by
    have hall : ∀ n : Fin 256, lower (UInt8.ofFin n) < 0x80 → UInt8.ofFin n < 0x80 := by
      decide +kernel
    intro w cs hcs hw
    rw [Octets.ofChars_ascii hcs] at hw
    refine .of_ascii fun b hb => hall b.toFin ?_
    have hmem : lower b ∈ cs.map fun c => UInt8.ofNat c.val.toNat := hw ▸ List.mem_map_of_mem hb
    obtain ⟨c, hc, hcode⟩ := List.mem_map.1 hmem
    have hless := hcs c hc
    have hbound : (0x80 : UInt8).toNat = 0x80 := rfl
    change lower b < 0x80
    rw [← hcode, UInt8.lt_iff_toNat_lt, UInt8.toNat_ofNat', hbound]
    omega
  have hgroups : ∀ {w : Octets}, w.map lower = u.groups → Octets.IsText w :=
    fun hw => hlower (chars_ascii u) hw
  cases h with
  | bare digits => exact hlower (hexChars_ascii _ _) digits
  | groups groups => exact hgroups groups
  | braces groups =>
    have hopening : Octets.IsText [0x7B] := by decide
    have hclosing : Octets.IsText [0x7D] := by decide
    exact hopening.append ((hgroups groups).append hclosing)
  | urn urn groups =>
    have hlabel : ("urn:uuid:".toList.all fun c => c.val.toNat < 0x80) = true := by decide
    have hascii := fun c hc => of_decide_eq_true (List.all_eq_true.1 hlabel c hc)
    exact (hlower hascii urn).append (hgroups groups)

/-! ## The canonical spelling -/

theorem lower_groups (u : Uuid) : u.groups.map lower = u.groups := by
  have hall : ∀ k < 16, lower (UInt8.ofNat (Json.hexChar k).val.toNat) =
      UInt8.ofNat (Json.hexChar k).val.toNat := by decide
  unfold groups
  rw [Octets.ofChars_ascii (chars_ascii u), List.map_map]
  apply List.map_congr_left
  intro c hc
  rcases mem_chars u c hc with rfl | hc
  · rfl
  · obtain ⟨k, hk, rfl⟩ := mem_hexChars 32 _ c hc
    exact hall k hk

/-- The canonical spelling of an identifier is read as that identifier. -/
theorem read_text (u : Uuid) : read u.text = .ok u := by
  have hspelling : u.Spelling (Octets.ofString u.text) := by
    apply Spelling.groups
    unfold Octets.ofString text
    rw [String.toList_ofList]
    exact lower_groups u
  unfold read
  rw [(ofOctets?_eq_some_iff _ u).2 hspelling]

end Workspaces.Uuid
