-- Values as they are accepted: whatever is taken as a value is one of the grammar and is UTF-8, and
-- whatever is skipped as a value is one of the grammar.
import Workspaces.Json.Read
import Workspaces.Proofs.Json.Scanning

namespace Workspaces.Json

/-! ## Blanks -/

/-- Blanks, and what has the property behind them. -/
def Spaced (P : Octets → Prop) (t : Octets) : Prop := ∃ a u, IsBlanks a ∧ P u ∧ t = a ++ u

/-- An octet that is next is behind blanks. -/
theorem eq_of_skipBlanks {t u : Octets} {b : UInt8} (h : skipBlanks t = b :: u) :
    ∃ a, IsBlanks a ∧ t = a ++ b :: u := by
  obtain ⟨a, ha, ht⟩ := took_skipBlanks t
  rw [h] at ht
  exact ⟨a, ha, ht⟩

theorem Spaced.of_took {P : Octets → Prop} {t u rest : Octets} {b : UInt8}
    (hblanks : skipBlanks t = b :: u) (h : Took P (b :: u) rest) : Took (Spaced P) t rest := by
  obtain ⟨a, ha, rfl⟩ := eq_of_skipBlanks hblanks
  exact Took.append ⟨a, ha, rfl⟩ h fun a u ha hu => ⟨a, u, ha, hu, rfl⟩

/-! ## Parts -/

/-- What is left of a bracket: all that stands in it, or what follows an entry that was read. -/
def Part.left (later : Bool) (bracket : Bracket) (es : List Entry) : Part :=
  if later then .more bracket es else .inside bracket es

theorem Spells.left_end {bracket : Bracket} {t : Octets} (later : Bool) (h : IsBlanks t) :
    Spells (.left later bracket []) t := by
  cases later with
  | false => exact .blank h
  | true => exact .last h

theorem Spells.left_entry {later : Bool} {bracket : Bracket} {e : Entry} {es : List Entry}
    {lead t u : Octets} (hlead : Leads later lead) (ht : Spells (.entry bracket e) t)
    (hu : Spells (.left true bracket es) u) :
    Spells (.left later bracket (e :: es)) (lead ++ (t ++ u)) := by
  cases hlead with
  | first =>
    rw [List.nil_append]
    exact .first ht hu
  | comma blanks =>
    rw [List.append_assoc, List.singleton_append]
    exact .next blanks ht hu

theorem Spells.left_nil {later : Bool} {bracket : Bracket} {t : Octets}
    (h : Spells (.left later bracket []) t) : IsBlanks t := by
  cases later with
  | false =>
    cases h with
    | blank blanks => exact blanks
  | true =>
    cases h with
    | last blanks => exact blanks

theorem Spells.left_cons {later : Bool} {bracket : Bracket} {e : Entry} {es : List Entry}
    {t : Octets} (h : Spells (.left later bracket (e :: es)) t) :
    ∃ lead u v, Leads later lead ∧ Spells (.entry bracket e) u ∧
      Spells (.left true bracket es) v ∧ t = lead ++ (u ++ v) := by
  cases later with
  | false =>
    cases h with
    | first entry more => exact ⟨[], _, _, .first, entry, more, rfl⟩
  | true =>
    cases h with
    | next blanks entry more => exact ⟨_, _, _, .comma blanks, entry, more, by simp⟩

/-- The octets are a part of a text, and are UTF-8. -/
structure Written (part : Part) (t : Octets) : Prop where
  spells : Spells part t
  text : Octets.IsText t

namespace Written

theorem value_of_ascii {t : Octets} (h : Spells .value t) (hascii : ∀ b ∈ t, b < 0x80) :
    Written .value t := ⟨h, .of_ascii hascii⟩

theorem left_end {bracket : Bracket} {t : Octets} (later : Bool) (h : IsBlanks t) :
    Written (.left later bracket []) t := ⟨.left_end later h, h.isText⟩

theorem left_entry {later : Bool} {bracket : Bracket} {e : Entry} {es : List Entry}
    {lead t u : Octets} (hlead : Leads later lead) (ht : Written (.entry bracket e) t)
    (hu : Written (.left true bracket es) u) :
    Written (.left later bracket (e :: es)) (lead ++ (t ++ u)) where
  spells := .left_entry hlead ht.spells hu.spells
  text := by
    have htext : Octets.IsText lead := by
      cases hlead with
      | first => exact .nil
      | comma blanks => exact blanks.isText.append (by decide)
    exact htext.append (ht.text.append hu.text)

theorem bracket {bracket : Bracket} {es : List Entry} {t : Octets}
    (h : Written (.left false bracket es) t) :
    Written .value (bracket.opening :: (t ++ [bracket.closing])) where
  spells := .bracket h.spells
  text := by
    have hopening : Octets.IsText [bracket.opening] := by cases bracket <;> decide
    have hclosing : Octets.IsText [bracket.closing] := by cases bracket <;> decide
    exact hopening.append (h.text.append hclosing)

/-- A value with its blanks is an item of a list. -/
theorem item {a t : Octets} (ha : IsBlanks a) (h : Spaced (Written .value) t) :
    ∃ e, Written (.entry .list e) (a ++ t) := by
  obtain ⟨b, u, hb, hu, rfl⟩ := h
  exact ⟨_, .entry ha .item hb hu.spells, ha.isText.append (hb.isText.append hu.text)⟩

/-- A name, a colon and a value are a member of an object. -/
theorem member {a n c v : Octets} (ha : IsBlanks a) (hn : IsString n) (htext : Octets.IsText n)
    (hc : IsBlanks c) (hv : Spaced (Written .value) v) :
    ∃ e, Written (.entry .object e) (a ++ (n ++ (c ++ 0x3A :: v))) := by
  obtain ⟨b, u, hb, hu, rfl⟩ := hv
  have hspelled := Spells.entry ha (.member hn hc) hb hu.spells
  simp only [List.append_assoc, List.singleton_append] at hspelled
  refine ⟨_, hspelled, ?_⟩
  have hcolon : Octets.IsText [0x3A] := by decide
  exact ha.isText.append (htext.append (hc.isText.append
    (hcolon.append (hb.isText.append hu.text))))

end Written

/-! ## Lists -/

theorem took_nextItem {later : Bool} {t u : Octets} (h : nextItem later t = .ok (some u)) :
    ∃ lead a, Leads later lead ∧ IsBlanks a ∧ t = lead ++ (a ++ u) := by
  unfold nextItem at h
  split at h
  · cases h
  · rename_i b v hnext
    obtain ⟨a, ha, rfl⟩ := eq_of_skipBlanks hnext
    split at h
    · cases h
    · split at h
      · rename_i hfirst
        obtain rfl := Option.some.inj (Except.ok.inj h)
        obtain rfl : later = false := by simpa using hfirst
        exact ⟨[], a, .first, ha, rfl⟩
      · rename_i hlater
        obtain rfl : later = true := by simpa using hlater
        split at h
        · rename_i hb
          obtain rfl : b = 0x2C := Octets.eq_of_char hb rfl
          split at h
          · cases h
          · rename_i c w hbehind
            obtain ⟨a', ha', rfl⟩ := eq_of_skipBlanks hbehind
            split at h
            · cases h
            · obtain rfl := Option.some.inj (Except.ok.inj h)
              exact ⟨a ++ [0x2C], a', .comma ha, ha', by simp⟩
        · cases h

theorem eq_of_nextItem_none {later : Bool} {t : Octets} (h : nextItem later t = .ok none) :
    ∃ a u, IsBlanks a ∧ t = a ++ 0x5D :: u := by
  unfold nextItem at h
  split at h
  · cases h
  · rename_i b u hnext
    obtain ⟨a, ha, rfl⟩ := eq_of_skipBlanks hnext
    split at h
    · rename_i hb
      obtain rfl : b = 0x5D := Octets.eq_of_char hb rfl
      exact ⟨a, u, ha, rfl⟩
    · split at h
      · cases h
      · split at h
        · split at h
          · cases h
          · split at h <;> cases h
        · cases h

theorem took_takeListEnd {t rest : Octets} (h : takeListEnd t = .ok rest) :
    ∃ a, IsBlanks a ∧ t = a ++ 0x5D :: rest := by
  unfold takeListEnd at h
  split at h
  · cases h
  · rename_i b u hnext
    obtain ⟨a, ha, rfl⟩ := eq_of_skipBlanks hnext
    split at h
    · rename_i hb
      obtain rfl := Except.ok.inj h
      obtain rfl : b = 0x5D := Octets.eq_of_char hb rfl
      exact ⟨a, ha, rfl⟩
    · split at h
      · split at h <;> cases h
      · cases h

theorem took_takeItems {α : Type} {item : Reader α}
    (hitem : ∀ {t x rest}, item t = .ok (x, rest) → Took (Spaced (Written .value)) t rest)
    {turns : Octets} {done xs : List α} {t rest : Octets}
    (h : takeItems item turns done t = .ok (xs, rest)) :
    ∃ es u, Written (.left (!done.isEmpty) .list es) u ∧ t = u ++ 0x5D :: rest := by
  induction turns generalizing done t with
  | nil => cases h
  | cons _ turns ih =>
    rw [takeItems] at h
    split at h
    · cases h
    · obtain ⟨v, hend, hv⟩ := ok_of_map h
      obtain ⟨_, rfl⟩ := Prod.mk.inj hv
      obtain ⟨a, ha, rfl⟩ := took_takeListEnd hend
      exact ⟨[], a, .left_end _ ha, rfl⟩
    · rename_i v hnext
      obtain ⟨lead, a, hlead, ha, rfl⟩ := took_nextItem hnext
      split at h
      · cases h
      · rename_i x w hx
        obtain ⟨i, hi, rfl⟩ := hitem hx
        obtain ⟨e, he⟩ := Written.item ha hi
        obtain ⟨es, u, hu, rfl⟩ := ih h
        exact ⟨e :: es, _, .left_entry hlead he hu, by simp⟩

/-! ## Objects -/

theorem took_takeColon {t rest : Octets} (h : takeColon t = .ok rest) :
    ∃ a, IsBlanks a ∧ t = a ++ 0x3A :: rest := by
  unfold takeColon at h
  split at h
  · cases h
  · rename_i b u hnext
    obtain ⟨a, ha, rfl⟩ := eq_of_skipBlanks hnext
    split at h
    · rename_i hb
      obtain rfl := Except.ok.inj h
      obtain rfl : b = 0x3A := Octets.eq_of_char hb rfl
      exact ⟨a, ha, rfl⟩
    · cases h

theorem took_takeObjectEnd {t rest : Octets} (h : takeObjectEnd t = .ok rest) :
    ∃ a, IsBlanks a ∧ t = a ++ 0x7D :: rest := by
  unfold takeObjectEnd at h
  split at h
  · cases h
  · rename_i b u hnext
    obtain ⟨a, ha, rfl⟩ := eq_of_skipBlanks hnext
    split at h
    · rename_i hb
      obtain rfl := Except.ok.inj h
      obtain rfl : b = 0x7D := Octets.eq_of_char hb rfl
      exact ⟨a, ha, rfl⟩
    · split at h <;> cases h

/-- A string between its quotes, behind the first of which it was taken. -/
theorem took_quoted {t rest : Octets} {s : String} (h : takeString t = .ok (s, rest)) :
    Took (fun n => IsString n ∧ Octets.IsText n) (0x22 :: t) rest := by
  obtain ⟨u, hu, htext, rfl⟩ := took_takeString h
  have hquote : Octets.IsText [0x22] := by decide
  exact ⟨_, ⟨.quoted hu, hquote.append (htext.append hquote)⟩, by simp⟩

theorem took_nextName {later : Bool} {t rest : Octets} {name : String}
    (h : nextName later t = .ok (some (name, rest))) :
    ∃ lead a n, Leads later lead ∧ IsBlanks a ∧ (IsString n ∧ Octets.IsText n) ∧
      t = lead ++ (a ++ (n ++ rest)) := by
  have hname : ∀ {b u}, Octets.char b = '"' →
      (takeString u).map some = .ok (some (name, rest)) →
      Took (fun n => IsString n ∧ Octets.IsText n) (b :: u) rest := by
    intro b u hb hu
    obtain ⟨r, hstring, hr⟩ := ok_of_map hu
    obtain rfl := Option.some.inj hr
    obtain rfl : b = 0x22 := Octets.eq_of_char hb rfl
    exact took_quoted hstring
  unfold nextName at h
  split at h
  · cases h
  · rename_i b u hnext
    obtain ⟨a, ha, rfl⟩ := eq_of_skipBlanks hnext
    split at h
    · cases h
    · split at h
      · rename_i hlater
        obtain rfl : later = true := hlater
        split at h
        · rename_i hb
          obtain rfl : b = 0x2C := Octets.eq_of_char hb rfl
          split at h
          · cases h
          · rename_i c w hbehind
            obtain ⟨a', ha', rfl⟩ := eq_of_skipBlanks hbehind
            split at h
            · rename_i hc
              obtain ⟨n, hn, hw⟩ := hname hc h
              exact ⟨a ++ [0x2C], a', n, .comma ha, ha', hn, by simp [hw]⟩
            · split at h <;> cases h
        · cases h
      · rename_i hfirst
        obtain rfl : later = false := by simpa using hfirst
        split at h
        · rename_i hb
          obtain ⟨n, hn, hu⟩ := hname hb h
          exact ⟨[], a, n, .first, ha, hn, by simp [hu]⟩
        · cases h

theorem took_takeMembers {value : Reader Json}
    (hvalue : ∀ {t v rest}, value t = .ok (v, rest) → Took (Spaced (Written .value)) t rest)
    {turns : Octets} {later : Bool} {done ms : List (String × Json)} {t rest : Octets}
    (h : takeMembers value turns later done t = .ok (ms, rest)) :
    ∃ es u, Written (.left later .object es) u ∧ t = u ++ 0x7D :: rest := by
  induction turns generalizing later done t with
  | nil => cases h
  | cons _ turns ih =>
    rw [takeMembers] at h
    split at h
    · cases h
    · obtain ⟨v, hend, hv⟩ := ok_of_map h
      obtain ⟨_, rfl⟩ := Prod.mk.inj hv
      obtain ⟨a, ha, rfl⟩ := took_takeObjectEnd hend
      exact ⟨[], a, .left_end later ha, rfl⟩
    · rename_i name u hnext
      obtain ⟨lead, a, n, hlead, ha, ⟨hn, htext⟩, rfl⟩ := took_nextName hnext
      split at h
      · cases h
      · rename_i v hcolon
        obtain ⟨c, hc, rfl⟩ := took_takeColon hcolon
        split at h
        · cases h
        · rename_i x w hx
          obtain ⟨i, hi, rfl⟩ := hvalue hx
          obtain ⟨e, he⟩ := Written.member ha hn htext hc hi
          obtain ⟨es, u, hu, rfl⟩ := ih h
          exact ⟨e :: es, _, .left_entry hlead he hu, by simp⟩

/-! ## Values -/

theorem took_takeLeaf {b : UInt8} {t rest : Octets} {v : Json}
    (h : takeLeaf b t = .ok (v, rest)) : Took (Written .value) (b :: t) rest := by
  have hword : ∀ {w : Octets} {x : Json}, (takeWord (w.map Octets.char) t).map (x, ·) =
      .ok (v, rest) → t = w ++ rest := by
    intro w x ht
    obtain ⟨u, htake, hu⟩ := ok_of_map ht
    obtain ⟨_, rfl⟩ := Prod.mk.inj hu
    exact eq_of_takeWord htake
  have hnumber : ∀ {negative u}, (takeNumber negative u).map (fun r => (.number r.1, r.2)) =
      .ok (v, rest) → Took IsUnsigned u rest := by
    intro negative u hu
    obtain ⟨⟨x, w⟩, htake, hw⟩ := ok_of_map hu
    obtain ⟨_, rfl⟩ := Prod.mk.inj hw
    exact took_takeNumber htake
  unfold takeLeaf at h
  split at h
  · rename_i hb
    obtain rfl : b = 0x6E := Octets.eq_of_char hb rfl
    exact ⟨_, .value_of_ascii .null (by simp), by rw [hword (w := [0x75, 0x6C, 0x6C]) h]; rfl⟩
  · rename_i hb
    obtain rfl : b = 0x74 := Octets.eq_of_char hb rfl
    exact ⟨_, .value_of_ascii .truth (by simp), by rw [hword (w := [0x72, 0x75, 0x65]) h]; rfl⟩
  · rename_i hb
    obtain rfl : b = 0x66 := Octets.eq_of_char hb rfl
    exact ⟨_, .value_of_ascii .falsehood (by simp),
      by rw [hword (w := [0x61, 0x6C, 0x73, 0x65]) h]; rfl⟩
  · rename_i hb
    obtain rfl : b = 0x22 := Octets.eq_of_char hb rfl
    obtain ⟨⟨s, w⟩, hstring, hw⟩ := ok_of_map h
    obtain ⟨_, rfl⟩ := Prod.mk.inj hw
    exact (took_quoted hstring).mono fun n ⟨hn, htext⟩ => ⟨.string hn, htext⟩
  · rename_i hb
    obtain rfl : b = 0x2D := Octets.eq_of_char hb rfl
    exact (hnumber h).cons fun u hu =>
      .value_of_ascii (.number (.minus hu)) (List.forall_mem_cons.2 ⟨by decide, hu.ascii⟩)
  · split at h
    · exact (hnumber h).mono fun u hu => .value_of_ascii (.number (.plain hu)) hu.ascii
    · cases h

/-- A value is taken as such, with the blanks in front of it. -/
theorem took_takeValue {depth : Nat} {t rest : Octets} {v : Json}
    (h : takeValue depth t = .ok (v, rest)) : Took (Spaced (Written .value)) t rest := by
  induction depth generalizing t v rest with
  | zero => cases h
  | succ depth ih =>
    rw [takeValue] at h
    split at h
    · cases h
    · rename_i b u hnext
      refine Spaced.of_took hnext ?_
      split at h
      · rename_i hb
        obtain rfl : b = 0x5B := Octets.eq_of_char hb rfl
        split at h
        · cases h
        · obtain ⟨⟨xs, w⟩, hitems, hw⟩ := ok_of_map h
          obtain ⟨_, rfl⟩ := Prod.mk.inj hw
          obtain ⟨es, i, hi, rfl⟩ := took_takeItems ih hitems
          have hvalue : Written .value (Bracket.list.opening :: (i ++ [Bracket.list.closing])) :=
            .bracket hi
          exact ⟨_, hvalue, by simp [Bracket.opening, Bracket.closing]⟩
      · split at h
        · rename_i hb
          obtain rfl : b = 0x7B := Octets.eq_of_char hb rfl
          split at h
          · cases h
          · obtain ⟨⟨ms, w⟩, hmembers, hw⟩ := ok_of_map h
            obtain ⟨_, rfl⟩ := Prod.mk.inj hw
            obtain ⟨es, i, hi, rfl⟩ := took_takeMembers ih hmembers
            have hvalue : Written .value
                (Bracket.object.opening :: (i ++ [Bracket.object.closing])) := .bracket hi
            exact ⟨_, hvalue, by simp [Bracket.opening, Bracket.closing]⟩
        · exact took_takeLeaf h

/-! ## Skipped values -/

theorem took_skipLeaf {b : UInt8} {t rest : Octets} (h : skipLeaf b t = .ok rest) :
    Took (Spells .value) (b :: t) rest := by
  unfold skipLeaf at h
  split at h
  · rename_i hb
    obtain rfl : b = 0x6E := Octets.eq_of_char hb rfl
    exact ⟨_, .null, by rw [eq_of_takeWord (w := [0x75, 0x6C, 0x6C]) h]; rfl⟩
  · rename_i hb
    obtain rfl : b = 0x74 := Octets.eq_of_char hb rfl
    exact ⟨_, .truth, by rw [eq_of_takeWord (w := [0x72, 0x75, 0x65]) h]; rfl⟩
  · rename_i hb
    obtain rfl : b = 0x66 := Octets.eq_of_char hb rfl
    exact ⟨_, .falsehood, by rw [eq_of_takeWord (w := [0x61, 0x6C, 0x73, 0x65]) h]; rfl⟩
  · rename_i hb
    obtain rfl : b = 0x22 := Octets.eq_of_char hb rfl
    obtain ⟨u, hu, rfl⟩ := took_skipString h
    exact ⟨_, .string (.quoted hu), by simp⟩
  · rename_i hb
    obtain rfl : b = 0x2D := Octets.eq_of_char hb rfl
    exact (took_skipNumber h).cons fun _ hu => .number (.minus hu)
  · split at h
    · exact (took_skipNumber h).mono fun _ hu => .number (.plain hu)
    · cases h

theorem took_skipName {bracket : Bracket} {t rest : Octets} (h : skipName bracket t = .ok rest) :
    ∃ a name label, IsBlanks a ∧ IsLabel bracket name label ∧ t = a ++ (label ++ rest) := by
  unfold skipName at h
  split at h
  · obtain rfl := Except.ok.inj h
    exact ⟨[], [], [], List.forall_mem_nil _, .item, rfl⟩
  · split at h
    · cases h
    · rename_i b u hnext
      obtain ⟨a, ha, rfl⟩ := eq_of_skipBlanks hnext
      split at h
      · rename_i hb
        obtain rfl : b = 0x22 := Octets.eq_of_char hb rfl
        cases hstring : skipString u with
        | error stop =>
          rw [hstring] at h
          cases h
        | ok v =>
          rw [hstring] at h
          obtain ⟨n, hn, rfl⟩ := took_skipString hstring
          obtain ⟨c, hc, rfl⟩ := took_takeColon h
          exact ⟨a, _, _, ha, .member (.quoted hn) hc, by simp⟩
      · cases h

/-- Blanks and a value stand in front of the rest, or blanks and the bracket that a value opens. -/
def Begun (rest t : Octets) : Option Bracket → Prop
  | none => Took (Spaced (Spells .value)) t rest
  | some bracket => ∃ a, IsBlanks a ∧ t = a ++ bracket.opening :: rest

theorem took_skipStart {inner : Option Bracket} {t rest : Octets}
    (h : skipStart t = .ok (inner, rest)) : Begun rest t inner := by
  unfold skipStart at h
  split at h
  · cases h
  · rename_i b u hnext
    split at h
    · rename_i hb
      obtain ⟨a, ha, rfl⟩ := eq_of_skipBlanks hnext
      obtain rfl : b = 0x5B := Octets.eq_of_char hb rfl
      obtain ⟨rfl, rfl⟩ := Prod.mk.inj (Except.ok.inj h)
      exact ⟨a, ha, rfl⟩
    · split at h
      · rename_i hb
        obtain ⟨a, ha, rfl⟩ := eq_of_skipBlanks hnext
        obtain rfl : b = 0x7B := Octets.eq_of_char hb rfl
        obtain ⟨rfl, rfl⟩ := Prod.mk.inj (Except.ok.inj h)
        exact ⟨a, ha, rfl⟩
      · obtain ⟨v, hleaf, hv⟩ := ok_of_map h
        obtain ⟨rfl, rfl⟩ := Prod.mk.inj hv
        exact Spaced.of_took hnext (took_skipLeaf hleaf)

/-- A turn that does not close a bracket takes the start of an entry. -/
theorem took_lead {later : Bool} {bracket : Bracket} {a u : Octets} {b : UInt8} (ha : IsBlanks a)
    (hcomma : ¬ (later = true ∧ Octets.char b ≠ ',')) {r : Option Bracket × Octets}
    (h : (skipName bracket (if later = true then u else b :: u)).bind skipStart = .ok r) :
    ∃ lead c name label v, Leads later lead ∧ IsBlanks c ∧ IsLabel bracket name label ∧
      a ++ b :: u = lead ++ (c ++ (label ++ v)) ∧ skipStart v = .ok r := by
  obtain ⟨v, hname, hstart⟩ : ∃ v, skipName bracket (if later = true then u else b :: u) = .ok v ∧
      skipStart v = .ok r := by
    cases hname : skipName bracket (if later = true then u else b :: u) with
    | error stop =>
      rw [hname] at h
      cases h
    | ok v =>
      rw [hname] at h
      exact ⟨v, rfl, h⟩
  obtain ⟨c, name, label, hc, hlabel, hsplit⟩ := took_skipName hname
  cases later with
  | false =>
    rw [if_neg (by decide)] at hsplit
    exact ⟨[], a ++ c, name, label, v, .first, List.forall_mem_append.2 ⟨ha, hc⟩, hlabel,
      by simp [hsplit], hstart⟩
  | true =>
    rw [if_pos rfl] at hsplit
    have hb : Octets.char b = ',' := by simpa using hcomma
    obtain rfl : b = 0x2C := Octets.eq_of_char hb rfl
    exact ⟨a ++ [0x2C], c, name, label, v, .comma ha, hc, hlabel, by simp [hsplit], hstart⟩

/-- The innermost bracket is skipped with all that is left of it, and then the others are. -/
theorem took_skipEntries {turns : Octets} {later : Bool} {bracket : Bracket}
    {outer : List Bracket} {t rest : Octets}
    (h : skipEntries turns later (bracket :: outer) t = .ok rest) :
    ∃ es u v turns', Spells (.left later bracket es) u ∧ t = u ++ bracket.closing :: v ∧
      turns'.length < turns.length ∧ skipEntries turns' true outer v = .ok rest := by
  -- A value that opens a bracket takes the turns of that one first, so the induction is on how many
  -- turns there are.
  induction hlength : turns.length using Nat.strongRecOn
    generalizing turns later bracket outer t with
  | _ n ih =>
    cases turns with
    | nil => cases h
    | cons _ turns =>
      rw [List.length_cons] at hlength
      rw [skipEntries] at h
      split at h
      · cases h
      · rename_i b u hnext
        obtain ⟨a, ha, rfl⟩ := eq_of_skipBlanks hnext
        split at h
        · rename_i hb
          obtain rfl : b = bracket.closing := by cases bracket <;> exact Octets.eq_of_char hb rfl
          exact ⟨[], a, u, turns, .left_end later ha, rfl, by omega, h⟩
        · split at h
          · cases h
          · rename_i hcomma
            -- Whether the value is a leaf or a bracket, what follows it goes on in this bracket.
            have hgoes : ∀ {lead c name label s value w turns'}, Leads later lead → IsBlanks c →
                IsLabel bracket name label → IsBlanks s → Spells .value value →
                a ++ b :: u = lead ++ (c ++ (label ++ (s ++ (value ++ w)))) →
                turns'.length ≤ turns.length →
                skipEntries turns' true (bracket :: outer) w = .ok rest →
                ∃ es u' v turns'', Spells (.left later bracket es) u' ∧
                  a ++ b :: u = u' ++ bracket.closing :: v ∧ turns''.length < n ∧
                  skipEntries turns'' true outer v = .ok rest := by
              intro lead c name label s value w turns' hlead hc hlabel hs hvalue hsplit hless hmore
              obtain ⟨es, x, v, turns'', hx, rfl, hfewer, hrest⟩ :=
                ih turns'.length (by omega) hmore rfl
              exact ⟨_, _, v, turns'', .left_entry hlead (.entry hc hlabel hs hvalue) hx,
                by simp [hsplit], by omega, hrest⟩
            split at h
            · cases h
            · rename_i inner w hstart
              obtain ⟨lead, c, name, label, v, hlead, hc, hlabel, hsplit, hv⟩ :=
                took_lead ha hcomma hstart
              obtain ⟨s, hs, rfl⟩ := took_skipStart hv
              obtain ⟨es, x, y, turns', hx, rfl, hfewer, hmore⟩ := ih turns.length (by omega) h rfl
              exact hgoes hlead hc hlabel hs (.bracket hx) (by simp [hsplit]) (by omega) hmore
            · rename_i w hstart
              obtain ⟨lead, c, name, label, v, hlead, hc, hlabel, hsplit, hv⟩ :=
                took_lead ha hcomma hstart
              obtain ⟨_, ⟨s, value, hs, hvalue, rfl⟩, rfl⟩ := took_skipStart hv
              exact hgoes hlead hc hlabel hs hvalue (by simp [hsplit]) (Nat.le_refl _) h

/-- A value is skipped as such, with the blanks in front of it. -/
theorem took_skipValue {t rest : Octets} (h : skipValue t = .ok rest) :
    Took (Spaced (Spells .value)) t rest := by
  unfold skipValue at h
  cases hstart : skipStart t with
  | error stop =>
    rw [hstart] at h
    cases h
  | ok r =>
    obtain ⟨inner, u⟩ := r
    rw [hstart] at h
    have hbegin := took_skipStart hstart
    cases inner with
    | none =>
      obtain rfl := Except.ok.inj h
      exact hbegin
    | some bracket =>
      obtain ⟨a, ha, rfl⟩ := hbegin
      obtain ⟨es, v, w, turns, hv, rfl, _, hend⟩ := took_skipEntries h
      have hrest : w = rest := by cases turns <;> exact Except.ok.inj hend
      exact ⟨_, ⟨a, _, ha, .bracket hv, rfl⟩, by simp [hrest]⟩

end Workspaces.Json
