-- Records as they are accepted: a front of the text is taken, which is an object or a list, and
-- what follows it makes no difference.
import Workspaces.Json.Record
import Workspaces.Proofs.Json.Acceptance
import Workspaces.Proofs.Json.Reading
import Workspaces.Proofs.Json.Skipping

namespace Workspaces.Json

/-! ## Decoders -/

theorem Spaced.of_blanks {P : Octets → Prop} {t rest : Octets}
    (h : Took (Spaced P) (skipBlanks t) rest) : Took (Spaced P) t rest := by
  refine (took_skipBlanks t).append h fun a u ha hu => ?_
  obtain ⟨b, v, hb, hv, rfl⟩ := hu
  exact ⟨a ++ b, v, List.forall_mem_append.2 ⟨ha, hb⟩, hv, (List.append_assoc a b v).symm⟩

/-- A value that begins with a quote is a string. -/
theorem Spells.of_quote {t : Octets} (h : Spells .value (0x22 :: t)) :
    ∃ u, IsCharacters u ∧ t = u ++ [0x22] := by
  generalize hw : 0x22 :: t = w at h
  have hhead : ∀ {b : UInt8} {u : Octets}, 0x22 :: t = b :: u → b = 0x22 :=
    fun h => (List.cons.inj h).1.symm
  cases h with
  | null | truth | falsehood => exact absurd (hhead hw) (by decide)
  | number number =>
    cases number with
    | plain unsigned =>
      obtain ⟨b, u, rfl, hb⟩ := unsigned.starts
      obtain rfl := hhead hw
      cases hb
    | minus _ => exact absurd (hhead hw) (by decide)
  | string string =>
    obtain ⟨characters⟩ := string
    exact ⟨_, characters, (List.cons.inj hw).2⟩
  | @bracket bracket _ _ _ =>
    refine absurd (hhead hw) ?_
    cases bracket <;> decide

namespace Decoder

variable {α : Type}

/-- The decoder takes blanks and a value of UTF-8, and takes the same from them whatever ends the
value. -/
structure Exact (d : Decoder α) : Prop where
  takes : ∀ {t x rest}, d.take t = .ok (x, rest) → Took (Spaced (Written .value)) t rest
  settled : ∀ {a t}, IsBlanks a → Spells .value t → Settled d.take (a ++ t)

theorem exact_parsed (wanted : String) (parse : String → Except String α) :
    (parsed wanted parse).Exact where
  takes h := by
    unfold parsed at h
    simp only at h
    split at h
    · cases h
    · rename_i b u hnext
      refine Spaced.of_took hnext ?_
      split at h
      · rename_i hb
        obtain rfl : b = 0x22 := Octets.eq_of_char hb rfl
        split at h
        · cases h
        · rename_i s v hstring
          split at h
          · obtain ⟨_, rfl⟩ := Prod.mk.inj (Except.ok.inj h)
            exact (took_quoted hstring).mono fun n ⟨hn, htext⟩ => ⟨.string hn, htext⟩
          · cases h
      · cases h
  settled {a t} ha ht := by
    obtain ⟨b, t, rfl, hblank, _⟩ := ht.starts
    have hnext : ∀ rest, skipBlanks (a ++ b :: t ++ rest) = b :: (t ++ rest) := by
      intro rest
      rw [List.append_assoc, skipBlanks_append ha, List.cons_append, skipBlanks_cons hblank]
    unfold parsed
    by_cases hb : Octets.char b = '"'
    · obtain rfl : b = 0x22 := Octets.eq_of_char hb rfl
      obtain ⟨u, hu, rfl⟩ := ht.of_quote
      obtain ⟨s?, hs⟩ := takeString_append hu
      refine ⟨s?.bind fun s => (parse s).toOption, fun rest _ => ?_⟩
      have hstring := hs rest
      simp only [hnext, if_pos hb]
      rw [List.append_assoc, List.singleton_append]
      cases s? with
      | none =>
        obtain ⟨stop, hstop⟩ := error_of_toOption hstring
        rw [hstop]
        rfl
      | some s =>
        rw [ok_of_toOption hstring, Option.bind_some]
        simp only
        cases parse s <;> rfl
    · refine ⟨none, fun rest _ => ?_⟩
      simp only [hnext, if_neg hb]
      rfl

theorem exact_text : text.Exact := exact_parsed _ _

theorem exact_value (depth : Nat) : (value depth).Exact where
  takes h := took_takeValue h
  settled {a t} ha ht := by
    obtain ⟨x?, hx⟩ := ht.reads depth
    refine ⟨x?, fun rest hrest => ?_⟩
    change (takeValue depth (a ++ t ++ rest)).toOption = _
    rw [List.append_assoc, takeValue_blanks depth ha, hx rest hrest]

theorem Exact.optional {d : Decoder α} (hd : d.Exact) : (Decoder.optional d).Exact where
  takes {t x rest} h := by
    unfold Decoder.optional at h
    simp only at h
    have hsome : ∀ {u}, skipBlanks t = u →
        (d.take u).map (fun r => (some r.1, r.2)) = .ok (x, rest) →
        Took (Spaced (Written .value)) t rest := by
      intro u hu htake
      obtain ⟨⟨y, v⟩, hy, hv⟩ := ok_of_map htake
      obtain ⟨_, rfl⟩ := Prod.mk.inj hv
      exact Spaced.of_blanks (hu ▸ hd.takes hy)
    split at h
    · rename_i b u hnext
      split at h
      · rename_i hb
        obtain rfl : b = 0x6E := Octets.eq_of_char hb rfl
        obtain ⟨v, hword, hv⟩ := ok_of_map h
        obtain ⟨_, rfl⟩ := Prod.mk.inj hv
        refine Spaced.of_took hnext ⟨_, .value_of_ascii .null (by simp), ?_⟩
        rw [eq_of_takeWord (w := [0x75, 0x6C, 0x6C]) hword]
        rfl
      · exact hsome hnext h
    · rename_i hnext
      exact hsome hnext h
  settled {a t} ha ht := by
    have hread := ht.reads 1
    have hvalue := hd.settled (List.forall_mem_nil _) ht
    obtain ⟨b, t, rfl, hblank, _⟩ := ht.starts
    have hnext : ∀ rest, skipBlanks (a ++ b :: t ++ rest) = b :: (t ++ rest) := by
      intro rest
      rw [List.append_assoc, skipBlanks_append ha, List.cons_append, skipBlanks_cons hblank]
    unfold Decoder.optional
    by_cases hb : Octets.char b = 'n'
    · obtain rfl : b = 0x6E := Octets.eq_of_char hb rfl
      obtain ⟨v?, hv⟩ := hread
      refine ⟨v?.map fun _ => none, fun rest hrest => ?_⟩
      have hword : (takeWord ['u', 'l', 'l'] (t ++ rest)).toOption.map (Json.null, ·) =
          v?.map (·, rest) := (toOption_map _ _).symm.trans (hv rest hrest)
      simp only [hnext, if_pos hb]
      rw [toOption_map]
      cases hr : (takeWord ['u', 'l', 'l'] (t ++ rest)).toOption <;> cases v? <;> simp_all
    · refine hvalue.map some fun rest => ?_
      simp only [hnext, if_neg hb]
      rfl

end Decoder

theorem Field.exact_of {α β : Type} {name : String} {required mayEndList : Bool} {d : Decoder β}
    {set : β → α → α} (hd : d.Exact) : (Field.of name required mayEndList d set).decoder.Exact where
  takes h := by
    obtain ⟨⟨y, v⟩, htake, hv⟩ := ok_of_map h
    obtain ⟨_, rfl⟩ := Prod.mk.inj hv
    exact hd.takes htake
  settled ha ht := (hd.settled ha ht).map set fun _ => rfl

/-! ## Entries -/

/-- In front of an item no list ends. -/
theorem takeListEnd_entry {later : Bool} {lead t : Octets} {e : Entry} (hlead : Leads later lead)
    (h : Spells (.entry .list e) t) (rest : Octets) :
    ∃ stop, takeListEnd (lead ++ (t ++ rest)) = .error stop := by
  have hstop : ∀ {w : Octets} {b : UInt8} {u : Octets}, skipBlanks w = b :: u →
      Octets.char b ≠ ']' → ∃ stop, takeListEnd w = .error stop := by
    intro w b u hw hb
    unfold takeListEnd
    rw [hw]
    simp only
    rw [if_neg hb]
    split
    · split <;> exact ⟨_, rfl⟩
    · exact ⟨_, rfl⟩
  cases hlead with
  | first =>
    obtain ⟨c, u, hnext, hclose⟩ := h.opens rest
    exact hstop hnext hclose
  | @comma a blanks =>
    have hnext : skipBlanks (a ++ [0x2C] ++ (t ++ rest)) = 0x2C :: (t ++ rest) := by
      rw [List.append_assoc, skipBlanks_append blanks, List.singleton_append,
        skipBlanks_cons (by decide)]
    exact hstop hnext (by decide)

/-! ## What follows a record -/

/-- What was taken once is taken again, whatever follows. -/
theorem Closed.again {α : Type} {read : (turns : Octets) → Reader α} {close : UInt8}
    {t turns turns' rest u : Octets} {x : α} (h : Closed read close t)
    (hturns : t.length < turns.length) (hturns' : t.length < turns'.length)
    (htake : read turns (t ++ close :: rest) = .ok (x, u)) (rest' : Octets) :
    read turns' (t ++ close :: rest') = .ok (x, rest') := by
  obtain ⟨x?, hx⟩ := h
  have hfirst := hx turns rest hturns
  rw [htake] at hfirst
  cases x? with
  | none => cases hfirst
  | some y =>
    obtain ⟨rfl, _⟩ := Prod.mk.inj (Option.some.inj hfirst)
    exact ok_of_toOption (hx turns' rest' hturns')

namespace Shape

variable {α : Type} {shape : Shape α}

theorem inside_error {β : Type} (place : Place) (stop : Stop) :
    ∃ stop', inside (β := β) place (.error stop) = .error stop' := ⟨_, rfl⟩

/-- The members of an object are taken in the same way whatever follows the object. -/
theorem takeByName_closed (hf : ∀ f ∈ shape.fields, f.decoder.Exact) {later : Bool}
    {es : List Entry} {t : Octets} (h : Spells (.left later .object es) t) (given : List String)
    (record : α) : Closed (fun turns => takeByName shape turns later given record) 0x7D t := by
  induction es generalizing later t given record with
  | nil =>
    have hblanks := h.left_nil
    cases hmissing : shape.missing? given with
    | some f =>
      refine .of_error fun b turns rest =>
        ⟨.misfit (.missingField f.name) (leaveObject (t ++ 0x7D :: rest)), ?_⟩
      rw [takeByName, nextName_end later hblanks]
      simp only [hmissing]
    | none =>
      refine .of_end record fun b turns rest => ?_
      rw [takeByName, nextName_end later hblanks]
      simp only [hmissing, takeObjectEnd_append hblanks]
      rfl
  | cons e es ih =>
    obtain ⟨lead, u, v, hlead, hu, hv, rfl⟩ := h.left_cons
    have hvalue := hu.value_of_entry
    have hends : ∀ rest, Ends (v ++ 0x7D :: rest) := hv.ends
    have hshorter : v.length < (lead ++ (u ++ v)).length := by
      have hpos := hu.length_pos
      simp only [List.length_append]
      omega
    have hassoc : ∀ rest,
        lead ++ (u ++ v) ++ 0x7D :: rest = lead ++ (u ++ (v ++ 0x7D :: rest)) := by
      simp
    obtain ⟨name?, blanks, hblanks, _, hname⟩ := nextName_entry hlead hu
    cases name? with
    | none =>
      refine .of_error fun b turns rest => ?_
      obtain ⟨_, _, hnone⟩ := hname (v ++ 0x7D :: rest)
      obtain ⟨stop, hstop⟩ := error_of_toOption hnone
      refine ⟨stop, ?_⟩
      rw [hassoc, takeByName, hstop]
    | some name =>
      cases hfield : shape.field? name with
      | none =>
        refine (ih hv given record).of_turn hshorter fun b turns rest => ?_
        obtain ⟨_, hcolon, hsome⟩ := hname (v ++ 0x7D :: rest)
        rw [hassoc, takeByName, ok_of_toOption hsome]
        simp only [hfield, hcolon, skipValue_append hblanks hvalue (hends rest)]
      | some f =>
        by_cases hgiven : given.contains name = true
        · refine .of_error fun b turns rest => ?_
          obtain ⟨w, _, hsome⟩ := hname (v ++ 0x7D :: rest)
          refine ⟨.misfit (.repeatedField name) (leaveObject w), ?_⟩
          rw [hassoc, takeByName, ok_of_toOption hsome]
          simp only [hfield, if_pos hgiven]
        · have hexact := hf f (List.mem_of_find?_eq_some hfield)
          obtain ⟨set?, hset⟩ := hexact.settled hblanks hvalue
          simp only [List.append_assoc] at hset
          cases set? with
          | none =>
            refine .of_error fun b turns rest => ?_
            obtain ⟨_, hcolon, hsome⟩ := hname (v ++ 0x7D :: rest)
            obtain ⟨stop, hstop⟩ := error_of_toOption (hset _ (hends rest))
            obtain ⟨stop', hinside⟩ := inside_error (β := (α → α) × Octets) (.member name) stop
            refine ⟨stop', ?_⟩
            rw [hassoc, takeByName, ok_of_toOption hsome]
            simp only [hfield, if_neg hgiven, hcolon, hstop, hinside]
          | some set =>
            refine (ih hv (name :: given) (set record)).of_turn hshorter fun b turns rest => ?_
            obtain ⟨_, hcolon, hsome⟩ := hname (v ++ 0x7D :: rest)
            rw [hassoc, takeByName, ok_of_toOption hsome]
            simp only [hfield, if_neg hgiven, hcolon, ok_of_toOption (hset _ (hends rest))]
            rfl

/-- The items of a list are taken in the same way whatever follows the list. -/
theorem takeInOrder_closed {fields : List (Field α)} (hf : ∀ f ∈ fields, f.decoder.Exact)
    {index : Nat} {es : List Entry} {t : Octets}
    (h : Spells (.left (index ≠ 0) .list es) t) (record : α) :
    Closed (fun _ => takeInOrder shape fields index record) 0x5D t := by
  induction fields generalizing index es t record with
  | nil =>
    cases es with
    | nil =>
      refine .of_end record fun b turns rest => ?_
      rw [takeInOrder, takeListEnd_append h.left_nil]
      rfl
    | cons e es =>
      obtain ⟨lead, u, v, hlead, hu, hv, rfl⟩ := h.left_cons
      refine .of_error fun b turns rest => ?_
      obtain ⟨stop, hstop⟩ := takeListEnd_entry hlead hu (v ++ 0x5D :: rest)
      refine ⟨stop, ?_⟩
      rw [List.append_assoc, List.append_assoc, takeInOrder, hstop]
      rfl
  | cons f fields ih =>
    obtain ⟨hexact, hfields⟩ := List.forall_mem_cons.1 hf
    cases es with
    | nil =>
      have hnext := nextItem_end (index ≠ 0) h.left_nil
      by_cases hmay : f.mayEndList = true
      · have hmore : Spells (.left (index + 1 ≠ 0) .list []) t := .left_end _ h.left_nil
        obtain ⟨x?, hx⟩ := ih hfields hmore record
        refine ⟨x?, fun turns rest hturns => ?_⟩
        change (takeInOrder shape (f :: fields) index record _).toOption = _
        rw [takeInOrder, hnext]
        simp only [if_pos hmay]
        exact hx turns rest hturns
      · refine .of_error fun b turns rest =>
          ⟨.misfit (.wrongLength index shape.listTitle) rest, ?_⟩
        rw [takeInOrder, hnext]
        simp only [if_neg hmay, takeListEnd_append h.left_nil]
        rfl
    | cons e es =>
      obtain ⟨lead, u, v, hlead, hu, hv, rfl⟩ := h.left_cons
      have hends : ∀ rest, Ends (v ++ 0x5D :: rest) := hv.ends
      have hnext : ∀ rest, nextItem (index ≠ 0) (lead ++ (u ++ v) ++ 0x5D :: rest) =
          .ok (some (e.value ++ (v ++ 0x5D :: rest))) := by
        intro rest
        rw [List.append_assoc, List.append_assoc, nextItem_entry hlead hu]
      obtain ⟨set?, hset⟩ := hexact.settled (List.forall_mem_nil _) hu.value_of_entry
      cases set? with
      | none =>
        refine .of_error fun b turns rest => ?_
        obtain ⟨stop, hstop⟩ := error_of_toOption (hset _ (hends rest))
        obtain ⟨stop', hinside⟩ := inside_error (β := (α → α) × Octets) (.item index) stop
        refine ⟨stop', ?_⟩
        rw [List.nil_append] at hstop
        rw [takeInOrder, hnext]
        simp only [hstop, hinside]
      | some set =>
        have hmore : Spells (.left (index + 1 ≠ 0) .list es) v := by simpa using hv
        have hpos := hu.length_pos
        refine (ih hfields hmore (set record)).of_turn (by simp; omega) fun b turns rest => ?_
        have htake := ok_of_toOption (hset _ (hends rest))
        rw [List.nil_append] at htake
        rw [takeInOrder, hnext]
        simp only [htake]
        rfl

end Shape

/-! ## Fronts -/

/-- The name of the member is UTF-8, and so is its value if the name is a known one. -/
structure Entry.Legible (known : List String) (e : Entry) : Prop where
  name : Octets.IsText e.name
  value : ∀ key ∈ known, ofOctets e.name = .ok (.string key) → Octets.IsText e.value

/-- A text that can be read for its known members: a list, or an object of legible ones. -/
inductive IsFront (known : List String) : Octets → Prop
  | list {a u : Octets} {es : List Entry} (before : IsBlanks a)
      (inside : Written (.inside .list es) u) : IsFront known (a ++ 0x5B :: (u ++ [0x5D]))
  | object {a u : Octets} {es : List Entry} (before : IsBlanks a)
      (inside : Spells (.inside .object es) u) (legible : ∀ e ∈ es, e.Legible known) :
      IsFront known (a ++ 0x7B :: (u ++ [0x7D]))

/-- The whole text is one value with blanks around it, and is UTF-8. -/
structure IsDocument (t : Octets) : Prop where
  text : Octets.IsText t
  value : ∃ rest, IsBlanks rest ∧ Took (Spaced (Spells .value)) t rest

theorem IsFront.took {known : List String} {t : Octets} (h : IsFront known t) (rest : Octets) :
    Took (Spaced (Spells .value)) (t ++ rest) rest := by
  cases h with
  | @list a u _ before inside =>
    have hvalue : Spells .value (0x5B :: (u ++ [0x5D])) := .bracket inside.spells
    exact ⟨_, ⟨a, _, before, hvalue, rfl⟩, rfl⟩
  | @object a u _ before inside _ =>
    have hvalue : Spells .value (0x7B :: (u ++ [0x7D])) := .bracket inside
    exact ⟨_, ⟨a, _, before, hvalue, rfl⟩, rfl⟩

/-- A front with blanks behind it is a document, if it is UTF-8. -/
theorem IsFront.isDocument {known : List String} {t rest : Octets} (h : IsFront known t)
    (ht : Octets.IsText t) (hrest : IsBlanks rest) : IsDocument (t ++ rest) :=
  ⟨ht.append hrest.isText, rest, hrest, h.took rest⟩

/-- A document is skipped as one value, with blanks left. -/
theorem isDocument_iff (t : Octets) : IsDocument t ↔
    Octets.IsText t ∧ (skipValue t).toOption.any (fun rest => rest.all isBlank) = true := by
  constructor
  · rintro ⟨htext, rest, hrest, _, ⟨a, v, ha, hv, rfl⟩, ht⟩
    have hends : Ends rest := by simpa using ends_append hrest ends_nil
    have hskip := skipValue_append ha hv hends
    rw [List.append_assoc] at ht
    refine ⟨htext, ?_⟩
    rw [ht, hskip]
    exact List.all_eq_true.2 hrest
  · rintro ⟨htext, hblanks⟩
    cases hskip : skipValue t with
    | error stop =>
      rw [hskip] at hblanks
      cases hblanks
    | ok rest =>
      rw [hskip] at hblanks
      exact ⟨htext, rest, List.all_eq_true.1 hblanks, took_skipValue hskip⟩

instance (t : Octets) : Decidable (IsDocument t) := decidable_of_iff _ (isDocument_iff t).symm

theorem ofOctets_of_nextName {later : Bool} {lead t u rest : Octets} {e : Entry} {name : String}
    (hlead : Leads later lead) (h : Spells (.entry .object e) t)
    (hname : nextName later (lead ++ (t ++ rest)) = .ok (some (name, u))) :
    ofOctets e.name = .ok (.string name) := by
  obtain ⟨name?, _, _, hof, hnext⟩ := nextName_entry hlead h
  obtain ⟨v, _, hv⟩ := hnext rest
  rw [hname] at hv
  cases name? with
  | none => cases hv
  | some name' =>
    obtain ⟨rfl, _⟩ := Prod.mk.inj (Option.some.inj (Option.some.inj hv))
    exact ok_of_toOption hof

namespace Shape

variable {α : Type} {shape : Shape α} {given : List String} {record record' : α} {t rest : Octets}

def names (shape : Shape α) : List String := shape.fields.map (·.name)

theorem ne_none_of_mem_names {name : String} (h : name ∈ shape.names) :
    shape.field? name ≠ none := by
  obtain ⟨f, hf, hname⟩ := List.mem_map.1 h
  intro hnone
  have hother := List.find?_eq_none.1 hnone f hf
  exact hother (by simp [hname])

theorem took_takeByName (hf : ∀ f ∈ shape.fields, f.decoder.Exact) {later : Bool} {turns : Octets}
    (h : takeByName shape turns later given record t = .ok (record', rest)) :
    ∃ es u, Spells (.left later .object es) u ∧ (∀ e ∈ es, e.Legible shape.names) ∧
      t = u ++ 0x7D :: rest := by
  induction turns generalizing later given record t with
  | nil => cases h
  | cons _ turns ih =>
    rw [takeByName] at h
    split at h
    · cases h
    · split at h
      · cases h
      · obtain ⟨v, hend, hv⟩ := ok_of_map h
        obtain ⟨_, rfl⟩ := Prod.mk.inj hv
        obtain ⟨a, ha, rfl⟩ := took_takeObjectEnd hend
        exact ⟨[], a, .left_end later ha, List.forall_mem_nil _, rfl⟩
    · rename_i name u hnext
      obtain ⟨lead, a, n, hlead, ha, ⟨hn, htext⟩, rfl⟩ := took_nextName hnext
      -- The member is legible, whether its value is taken or skipped.
      have hgoes : ∀ {c b v w given' record₁}, IsBlanks c → IsBlanks b → Spells .value v →
          (name ∈ shape.names → Octets.IsText v) → u = c ++ 0x3A :: (b ++ (v ++ w)) →
          takeByName shape turns true given' record₁ w = .ok (record', rest) →
          ∃ es u', Spells (.left later .object es) u' ∧ (∀ e ∈ es, e.Legible shape.names) ∧
            lead ++ (a ++ (n ++ u)) = u' ++ 0x7D :: rest := by
        intro c b v w given' record₁ hc hb hv hknown hu hmore
        obtain ⟨es, x, hx, hlegible, rfl⟩ := ih hmore
        have hentry := Spells.entry ha (.member hn hc) hb hv
        have hname := ofOctets_of_nextName hlead hentry (by simpa [hu] using hnext)
        refine ⟨⟨n, v⟩ :: es, _, .left_entry hlead hentry hx,
          List.forall_mem_cons.2 ⟨⟨htext, fun key hkey hof => ?_⟩, hlegible⟩, by simp [hu]⟩
        obtain rfl := Json.string.inj (Except.ok.inj (hname.symm.trans hof))
        exact hknown hkey
      split at h
      · rename_i hunknown
        split at h
        · cases h
        · rename_i v hcolon
          obtain ⟨c, hc, rfl⟩ := took_takeColon hcolon
          split at h
          · cases h
          · rename_i w hskip
            obtain ⟨_, ⟨b, v, hb, hv, rfl⟩, rfl⟩ := took_skipValue hskip
            exact hgoes hc hb hv (fun hname => absurd hunknown (ne_none_of_mem_names hname))
              (by simp) h
      · rename_i f hknown
        split at h
        · cases h
        · split at h
          · cases h
          · rename_i v hcolon
            obtain ⟨c, hc, rfl⟩ := took_takeColon hcolon
            split at h
            · cases h
            · rename_i set w hset
              have hexact := hf f (List.mem_of_find?_eq_some hknown)
              obtain ⟨_, ⟨b, v, hb, hv, rfl⟩, rfl⟩ := hexact.takes (ok_of_mapError hset)
              exact hgoes hc hb hv.spells (fun _ => hv.text) (by simp) h

/-- Where a list ends no more of it is taken, whatever fields are left. -/
theorem takeInOrder_end {fields : List (Field α)} {index : Nat} {w : Octets} (ht : IsBlanks t)
    (h : takeInOrder shape fields index record (t ++ 0x5D :: w) = .ok (record', rest)) :
    rest = w := by
  induction fields generalizing index with
  | nil =>
    rw [takeInOrder, takeListEnd_append ht] at h
    exact (Prod.mk.inj (Except.ok.inj h)).2.symm
  | cons f fields ih =>
    rw [takeInOrder, nextItem_end _ ht] at h
    simp only at h
    split at h
    · exact ih h
    · cases h

theorem took_takeInOrder {fields : List (Field α)} (hf : ∀ f ∈ fields, f.decoder.Exact)
    {index : Nat} (h : takeInOrder shape fields index record t = .ok (record', rest)) :
    ∃ es u, Written (.left (index ≠ 0) .list es) u ∧ t = u ++ 0x5D :: rest := by
  induction fields generalizing index record t with
  | nil =>
    obtain ⟨v, hend, hv⟩ := ok_of_map h
    obtain ⟨_, rfl⟩ := Prod.mk.inj hv
    obtain ⟨a, ha, rfl⟩ := took_takeListEnd hend
    exact ⟨[], a, .left_end _ ha, rfl⟩
  | cons f fields ih =>
    obtain ⟨hexact, hfields⟩ := List.forall_mem_cons.1 hf
    have hall := h
    rw [takeInOrder] at h
    split at h
    · cases h
    · rename_i hnext
      obtain ⟨a, w, ha, rfl⟩ := eq_of_nextItem_none hnext
      obtain rfl := takeInOrder_end ha hall
      exact ⟨[], a, .left_end _ ha, rfl⟩
    · rename_i u hnext
      obtain ⟨lead, a, hlead, ha, rfl⟩ := took_nextItem hnext
      split at h
      · cases h
      · rename_i set w hset
        obtain ⟨i, hi, rfl⟩ := hexact.takes (ok_of_mapError hset)
        obtain ⟨e, he⟩ := Written.item ha hi
        obtain ⟨es, v, hv, rfl⟩ := ih hfields h
        have hmore : Written (.left true .list es) v := by simpa using hv
        exact ⟨e :: es, _, .left_entry hlead he hmore, by simp⟩

/-- A record is taken from a front of the text, and the same is taken from the front alone. -/
theorem front_of_take (hf : ∀ f ∈ shape.fields, f.decoder.Exact)
    (h : shape.take t = .ok (record, rest)) :
    ∃ front, t = front ++ rest ∧ IsFront shape.names front ∧
      shape.take front = .ok (record, []) := by
  unfold take at h
  split at h
  · cases h
  · rename_i b u hnext
    obtain ⟨a, ha, rfl⟩ := eq_of_skipBlanks hnext
    split at h
    · rename_i hb
      obtain rfl : b = 0x5B := Octets.eq_of_char hb rfl
      obtain ⟨es, v, hv, rfl⟩ := took_takeInOrder hf h
      refine ⟨a ++ 0x5B :: (v ++ [0x5D]), by simp, .list ha hv, ?_⟩
      unfold take
      rw [skipBlanks_append ha, skipBlanks_cons (by decide)]
      simp only [if_pos hb]
      -- A list takes no turns, so any run of octets will do.
      have hturns : v.length < (v ++ [0x5D]).length := by simp
      exact (takeInOrder_closed hf hv.spells shape.blank).again hturns hturns h []
    · rename_i hlist
      split at h
      · rename_i hb
        obtain rfl : b = 0x7B := Octets.eq_of_char hb rfl
        obtain ⟨es, v, hv, hlegible, rfl⟩ := took_takeByName hf h
        refine ⟨a ++ 0x7B :: (v ++ [0x7D]), by simp, .object ha hv hlegible, ?_⟩
        unfold take
        rw [skipBlanks_append ha, skipBlanks_cons (by decide)]
        simp only [if_neg hlist, if_pos hb]
        have hturns : ∀ w, v.length < (0x7B :: (v ++ 0x7D :: w)).length := by
          intro w
          simp only [List.length_cons, List.length_append]
          omega
        exact (takeByName_closed hf hv [] shape.blank).again (hturns rest) (hturns []) h []
      · cases h

end Shape

end Workspaces.Json
