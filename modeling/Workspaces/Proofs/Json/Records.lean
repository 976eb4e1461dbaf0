-- Records read from the text of an object: each field takes what its member says, in whatever order
-- the members stand and whatever stands between them.
import Workspaces.Json.Record
import Workspaces.Proofs.Json.Acceptance
import Workspaces.Proofs.Json.Reading
import Workspaces.Proofs.Json.Skipping

namespace Workspaces.Json

/-! ## Decoders -/

/-- What is read from a whole text is taken from its front. -/
theorem take_of_readWhole {α : Type} {reader : Reader α} {t : Octets} {x : α}
    (h : readWhole reader t = .ok x) : ∃ rest, reader t = .ok (x, rest) := by
  unfold readWhole at h
  split at h
  · cases h
  · rename_i y rest htake
    split at h
    · obtain rfl := Except.ok.inj h
      exact ⟨rest, htake⟩
    · cases h

theorem take_of_ofOctets {t : Octets} {v : Json} (h : ofOctets t = .ok v) :
    ∃ rest, takeValue depthLimit t = .ok (v, rest) := take_of_readWhole h

theorem takeValue_leaf {depth : Nat} {b : UInt8} (t : Octets) (hblank : isBlank b = false)
    (hlist : Octets.char b ≠ '[') (hobject : Octets.char b ≠ '{') :
    takeValue (depth + 1) (b :: t) = takeLeaf b t := by
  rw [takeValue, skipBlanks_cons hblank]
  simp only
  rw [if_neg hlist, if_neg hobject]

/-- Only a word of which the first letter is that of null can be null. -/
theorem ne_null_of_takeValue {depth : Nat} {b : UInt8} {t rest : Octets} {v : Json}
    (hblank : isBlank b = false) (hb : Octets.char b ≠ 'n')
    (h : takeValue depth (b :: t) = .ok (v, rest)) : v ≠ .null := by
  rintro rfl
  have hmap : ∀ {β : Type} {f : β → Json × Octets} {r : Except Stop β},
      r.map f = .ok (.null, rest) → (∀ y, (f y).1 ≠ .null) → False := by
    intro β f r hr hf
    obtain ⟨y, _, hy⟩ := ok_of_map hr
    exact hf y (by rw [hy])
  cases depth with
  | zero => cases h
  | succ depth =>
    rw [takeValue, skipBlanks_cons hblank] at h
    simp only at h
    split at h
    · split at h
      · cases h
      · exact hmap h (by simp)
    · split at h
      · split at h
        · cases h
        · exact hmap h (by simp)
      · unfold takeLeaf at h
        split at h
        · rename_i hn
          exact hb hn
        · exact hmap h (by simp)
        · exact hmap h (by simp)
        · exact hmap h (by simp)
        · exact hmap h (by simp)
        · split at h
          · exact hmap h (by simp)
          · cases h

namespace Decoder

variable {α : Type}

/-- From the front of a text the decoder takes what it makes of the value that is spelled there, and
nothing of what follows the value. -/
def Faithful (d : Decoder α) : Prop :=
  ∀ ⦃blanks t rest u : Octets⦄ ⦃x : α⦄, IsBlanks blanks → Spells .value t → Ends rest →
    d.take (blanks ++ (t ++ rest)) = .ok (x, u) →
      u = rest ∧ ∃ v, ofOctets t = .ok v ∧ d.ofValue v = .ok x

theorem faithful_parsed (wanted : String) (parse : String → Except String α) :
    (parsed wanted parse).Faithful := by
  intro blanks t rest u x hblanks ht hrest h
  obtain ⟨b, t', rfl, hblank, _⟩ := ht.starts
  unfold parsed at h
  simp only at h
  rw [skipBlanks_append hblanks, List.cons_append, skipBlanks_cons hblank] at h
  simp only at h
  split at h
  · rename_i hquote
    have hleaf : takeValue depthLimit (b :: (t' ++ rest)) =
        (takeString (t' ++ rest)).map fun r => (.string r.1, r.2) := by
      rw [depthLimit, takeValue_leaf _ hblank (by rw [hquote]; decide) (by rw [hquote]; decide)]
      unfold takeLeaf
      rw [hquote]
      rfl
    cases hstring : takeString (t' ++ rest) with
    | error stop =>
      rw [hstring] at h
      cases h
    | ok r =>
      obtain ⟨s, w⟩ := r
      rw [hstring] at h hleaf
      obtain ⟨rfl, hvalue⟩ := ht.takeValue hrest (Nat.le_refl _) hleaf
      simp only at h
      split at h
      · rename_i y hy
        obtain ⟨rfl, rfl⟩ := Prod.mk.inj (Except.ok.inj h)
        refine ⟨rfl, .string s, hvalue, ?_⟩
        change (parse s).mapError _ = _
        rw [hy]
        rfl
      · cases h
  · cases h

theorem faithful_text : text.Faithful := faithful_parsed _ _

theorem faithful_value {depth : Nat} (h : depth ≤ depthLimit) : (value depth).Faithful := by
  intro blanks t rest u x hblanks ht hrest htake
  change takeValue depth _ = _ at htake
  rw [takeValue_blanks depth hblanks] at htake
  obtain ⟨hu, hvalue⟩ := ht.takeValue hrest h htake
  exact ⟨hu, x, hvalue, rfl⟩

theorem Faithful.optional {d : Decoder α} (hd : d.Faithful) : (Decoder.optional d).Faithful := by
  intro blanks t rest u x hblanks ht hrest h
  obtain ⟨b, t', rfl, hblank, _⟩ := ht.starts
  unfold Decoder.optional at h
  simp only at h
  rw [skipBlanks_append hblanks, List.cons_append, skipBlanks_cons hblank] at h
  simp only at h
  split at h
  · rename_i hn
    have hleaf : takeValue depthLimit (b :: (t' ++ rest)) =
        (takeWord ['u', 'l', 'l'] (t' ++ rest)).map (.null, ·) := by
      rw [depthLimit, takeValue_leaf _ hblank (by rw [hn]; decide) (by rw [hn]; decide)]
      unfold takeLeaf
      rw [hn]
      rfl
    obtain ⟨w, hword, hw⟩ := ok_of_map h
    obtain ⟨rfl, rfl⟩ := Prod.mk.inj hw
    rw [hword] at hleaf
    obtain ⟨hu, hvalue⟩ := ht.takeValue hrest (Nat.le_refl _) hleaf
    exact ⟨hu, .null, hvalue, rfl⟩
  · rename_i hn
    obtain ⟨⟨y, w⟩, htake, hw⟩ := ok_of_map h
    obtain ⟨rfl, rfl⟩ := Prod.mk.inj hw
    obtain ⟨hu, v, hvalue, hread⟩ := hd (List.forall_mem_nil _) ht hrest htake
    refine ⟨hu, v, hvalue, ?_⟩
    obtain ⟨_, hv⟩ := take_of_ofOctets hvalue
    have hnull := ne_null_of_takeValue hblank hn hv
    cases v with
    | null => exact absurd rfl hnull
    | bool | number | string | array | object =>
      change (d.ofValue _).map some = _
      rw [hread]
      rfl

end Decoder

/-- What a field takes is what it makes of the value. -/
theorem Field.faithful_of {α β : Type} {name : String} {required mayEndList : Bool}
    {d : Decoder β} {set : β → α → α} (hd : d.Faithful) :
    (Field.of name required mayEndList d set).decoder.Faithful := by
  intro blanks t rest u x hblanks ht hrest h
  obtain ⟨⟨y, w⟩, htake, hw⟩ := ok_of_map h
  obtain ⟨rfl, rfl⟩ := Prod.mk.inj hw
  obtain ⟨hu, v, hvalue, hread⟩ := hd hblanks ht hrest htake
  refine ⟨hu, v, hvalue, ?_⟩
  change (d.ofValue v).map set = _
  rw [hread]
  rfl

/-! ## Members -/

/-- What a text says, if a value is read from it. -/
def read? (t : Octets) : Option Json := (ofOctets t).toOption

/-- What the members of the name say, in order. -/
def valuesOf (ms : List Entry) (key : String) : List (Option Json) :=
  (ms.filter fun m => read? m.name = some (.string key)).map fun m => read? m.value

namespace Shape

variable {α : Type} (shape : Shape α)

/-- The members make one record of another, of which the named fields were given before: members
that belong to no field leave it as it is, and no field is given twice. -/
inductive Fills : (given : List String) → α → List Entry → α → Prop
  | done {given : List String} {record : α} (complete : shape.missing? given = none) :
      Fills given record [] record
  | passed {given : List String} {record record' : α} {m : Entry} {ms : List Entry} {name : String}
      (named : ofOctets m.name = .ok (.string name)) (unknown : shape.field? name = none)
      (more : Fills given record ms record') : Fills given record (m :: ms) record'
  | filled {given : List String} {record record' : α} {m : Entry} {ms : List Entry} {name : String}
      {f : Field α} {v : Json} {set : α → α} (named : ofOctets m.name = .ok (.string name))
      (known : shape.field? name = some f) (fresh : name ∉ given)
      (value : ofOctets m.value = .ok v) (reads : f.decoder.ofValue v = .ok set)
      (more : Fills (name :: given) (set record) ms record') : Fills given record (m :: ms) record'

variable {shape} {given : List String} {record record' : α}

/-- A turn takes one member. -/
theorem takeByName_entry (hf : ∀ f ∈ shape.fields, f.decoder.Faithful) {later : Bool}
    {lead t rest turns u : Octets} {b : UInt8} {e : Entry} (hlead : Leads later lead)
    (h : Spells (.entry .object e) t) (hrest : Ends rest)
    (htake : takeByName shape (b :: turns) later given record (lead ++ (t ++ rest)) =
      .ok (record', u)) :
    ∃ name, ofOctets e.name = .ok (.string name) ∧
      ((shape.field? name = none ∧
        takeByName shape turns true given record rest = .ok (record', u)) ∨
      ∃ f v set, shape.field? name = some f ∧ name ∉ given ∧ ofOctets e.value = .ok v ∧
        f.decoder.ofValue v = .ok set ∧
        takeByName shape turns true (name :: given) (set record) rest = .ok (record', u)) := by
  obtain ⟨name?, blanks, hblanks, hname, hnext⟩ := nextName_entry hlead h
  obtain ⟨w, hcolon, hnext⟩ := hnext rest
  have hvalue := h.value_of_entry
  cases name? with
  | none =>
    obtain ⟨stop, hstop⟩ := error_of_toOption hnext
    rw [takeByName, hstop] at htake
    cases htake
  | some name =>
    refine ⟨name, ok_of_toOption hname, ?_⟩
    rw [takeByName, ok_of_toOption hnext] at htake
    simp only at htake
    split at htake
    · rename_i hunknown
      simp only [hcolon, skipValue_append hblanks hvalue hrest] at htake
      exact .inl ⟨hunknown, htake⟩
    · rename_i f hknown
      split at htake
      · cases htake
      · rename_i hfresh
        simp only [hcolon] at htake
        cases hfield : f.decoder.take (blanks ++ (e.value ++ rest)) with
        | error stop =>
          rw [hfield] at htake
          cases htake
        | ok r =>
          obtain ⟨set, w'⟩ := r
          rw [hfield] at htake
          obtain ⟨rfl, v, hsays, hreads⟩ :=
            hf f (List.mem_of_find?_eq_some hknown) hblanks hvalue hrest hfield
          exact .inr ⟨f, v, set, hknown, by simpa using hfresh, hsays, hreads, htake⟩

/-- The turn at the end takes the record as it is, if no field is missing. -/
theorem takeByName_end {later : Bool} {t rest turns u : Octets} {b : UInt8} (ht : IsBlanks t)
    (htake : takeByName shape (b :: turns) later given record (t ++ 0x7D :: rest) =
      .ok (record', u)) : record' = record ∧ shape.missing? given = none := by
  rw [takeByName, nextName_end later ht, takeObjectEnd_append ht] at htake
  simp only at htake
  split at htake
  · cases htake
  · rename_i hnone
    exact ⟨(Prod.mk.inj (Except.ok.inj htake)).1.symm, hnone⟩

theorem fills_of_takeByName (hf : ∀ f ∈ shape.fields, f.decoder.Faithful) {later : Bool}
    {es : List Entry} {t turns rest u : Octets} (h : Spells (.left later .object es) t)
    (hturns : t.length < turns.length)
    (htake : takeByName shape turns later given record (t ++ 0x7D :: rest) = .ok (record', u)) :
    Fills shape given record es record' := by
  induction es generalizing later t turns given record with
  | nil =>
    obtain ⟨b, turns, rfl⟩ := List.exists_cons_of_length_pos (Nat.zero_lt_of_lt hturns)
    obtain ⟨rfl, complete⟩ := takeByName_end h.left_nil htake
    exact .done complete
  | cons e es ih =>
    obtain ⟨b, turns, rfl⟩ := List.exists_cons_of_length_pos (Nat.zero_lt_of_lt hturns)
    obtain ⟨lead, v, w, hlead, entry, more, rfl⟩ := h.left_cons
    have hlength : w.length < turns.length := by
      have hpos := entry.length_pos
      simp only [List.length_append, List.length_cons] at hturns
      omega
    rw [List.append_assoc, List.append_assoc] at htake
    obtain ⟨name, hname, ⟨hunknown, htake⟩ | ⟨f, x, set, hknown, hfresh, hx, hreads, htake⟩⟩ :=
      takeByName_entry hf hlead entry (more.ends rest) htake
    · exact .passed hname hunknown (ih more hlength htake)
    · exact .filled hname hknown hfresh hx hreads (ih more hlength htake)

/-- What is taken from the text of an object is what its members make of the blank record. -/
theorem fills_of_take (hf : ∀ f ∈ shape.fields, f.decoder.Faithful) {ms : List Entry}
    {a t rest u : Octets} (before : IsBlanks a) (inside : Spells (.inside .object ms) t)
    (htake : shape.take (a ++ 0x7B :: (t ++ 0x7D :: rest)) = .ok (record, u)) :
    Fills shape [] shape.blank ms record := by
  unfold take at htake
  rw [skipBlanks_append before, skipBlanks_cons (by decide)] at htake
  simp only at htake
  rw [if_neg (by decide), if_pos (by decide)] at htake
  have hleft : Spells (.left false .object ms) t := inside
  refine fills_of_takeByName hf hleft ?_ htake
  simp only [List.length_append, List.length_cons]
  omega

/-! ## One field -/

theorem field?_spec {name : String} {f : Field α} (h : shape.field? name = some f) :
    f ∈ shape.fields ∧ f.name = name :=
  ⟨List.mem_of_find?_eq_some h, by simpa using List.find?_some h⟩

/-- Only the field of the key sets the part of a record, and it sets it to what its value gives. -/
def SetUnder {β γ : Type} (shape : Shape α) (key : String) (write : β → Json) (part : α → γ)
    (put : β → γ) : Prop :=
  ∀ ⦃name f v set⦄, shape.field? name = some f → f.decoder.ofValue v = .ok set →
    (name = key ∧ ∃ x, v = write x ∧ ∀ record, part (set record) = put x) ∨
      name ≠ key ∧ ∀ record, part (set record) = part record

theorem valuesOf_cons {m : Entry} {name : String} (hname : ofOctets m.name = .ok (.string name))
    (ms : List Entry) (key : String) : valuesOf (m :: ms) key =
      if name = key then read? m.value :: valuesOf ms key else valuesOf ms key := by
  unfold valuesOf
  rw [List.filter_cons]
  by_cases hkey : name = key
  · simp [read?, hname, Except.toOption, hkey]
  · simp [read?, hname, Except.toOption, hkey]

/-- What becomes of a part of the record that only one field sets: it stays as it was if no member
has the name of the field, which must then not be a required one, and otherwise the one member that
has the name sets it. -/
theorem Fills.value_cases {β γ : Type} {key : String} {write : β → Json} {part : α → γ}
    {put : β → γ} {ms : List Entry} (h : Fills shape given record ms record')
    (hkey : shape.field? key ≠ none) (hset : shape.SetUnder key write part put) :
    (valuesOf ms key = [] ∧ part record' = part record ∧
      (key ∈ given ∨ ∀ f ∈ shape.field? key, f.required = false)) ∨
    key ∉ given ∧ ∃ x, valuesOf ms key = [some (write x)] ∧ part record' = put x := by
  induction h with
  | @done given record complete =>
    refine .inl ⟨rfl, rfl, ?_⟩
    by_cases hgiven : key ∈ given
    · exact .inl hgiven
    · refine .inr fun f hf => ?_
      obtain ⟨hmem, rfl⟩ := field?_spec hf
      have hthere := List.find?_eq_none.1 complete f hmem
      simpa [hgiven] using hthere
  | @passed given record record' m ms name named unknown more ih =>
    have hname : name ≠ key := by
      rintro rfl
      exact hkey unknown
    rw [valuesOf_cons named, if_neg hname]
    exact ih
  | @filled given record record' m ms name f v set named known fresh value reads more ih =>
    rw [valuesOf_cons named]
    rcases hset known reads with ⟨rfl, x, rfl, hput⟩ | ⟨hname, hkept⟩
    · rw [if_pos rfl]
      rcases ih with ⟨hnone, hpart, _⟩ | ⟨hfresh, _⟩
      · refine .inr ⟨fresh, x, ?_, hpart.trans (hput record)⟩
        rw [hnone, read?, value]
        rfl
      · exact absurd List.mem_cons_self hfresh
    · rw [if_neg hname]
      rcases ih with ⟨hnone, hpart, hgiven⟩ | ⟨hfresh, hsome⟩
      · refine .inl ⟨hnone, hpart.trans (hkept record), hgiven.imp_left fun hmem => ?_⟩
        exact (List.mem_cons.1 hmem).resolve_left (Ne.symm hname)
      · exact .inr ⟨fun hmem => hfresh (List.mem_cons_of_mem name hmem), hsome⟩

end Shape

end Workspaces.Json
