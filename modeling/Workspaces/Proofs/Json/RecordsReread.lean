-- Records that are written and read back: the members of an object fill the record that they were
-- written for. What every field keeps is true of any record that is read, whichever way.
import Workspaces.Proofs.Json.Records
import Workspaces.Proofs.Json.Rereading

namespace Workspaces.Json

open Octets (ofChars)

/-! ## Decoders -/

/-- A value is taken as null only if it is null. -/
theorem null_of_takeValue {depth : Nat} {b : UInt8} {t rest : Octets} {v : Json}
    (hb : Octets.char b = 'n') (h : takeValue depth (b :: t) = .ok (v, rest)) : v = .null := by
  obtain rfl : b = 0x6E := Octets.eq_of_char hb rfl
  cases depth with
  | zero => cases h
  | succ depth =>
    rw [takeValue_leaf _ (by decide) (by decide) (by decide)] at h
    obtain ⟨_, _, hv⟩ := ok_of_map h
    exact (Prod.mk.inj hv).1.symm

namespace Decoder

variable {α : Type} {d : Decoder α}

/-- From the text of the value the decoder takes `x`, whatever ends the text. -/
def Rereads (d : Decoder α) (v : Json) (x : α) : Prop :=
  ∀ rest, Ends rest → d.take (ofChars v.chars ++ rest) = .ok (x, rest)

theorem rereads_parsed {wanted : String} {parse : String → Except String α} {s : String} {x : α}
    (h : parse s = .ok x) : (parsed wanted parse).Rereads (.string s) x := by
  intro rest _
  have htake := takeString_quoted s rest
  have hopens : skipBlanks (ofChars (Json.string s).chars ++ rest) =
      0x22 :: (ofChars (s.toList.flatMap escaped) ++ [0x22] ++ rest) := by
    rw [chars, ofChars_quoted, List.cons_append, skipBlanks_cons (by decide)]
  unfold parsed
  simp only [hopens]
  rw [if_pos (by decide), htake]
  simp only [h]

theorem rereads_text (s : String) : text.Rereads (.string s) s := rereads_parsed rfl

theorem rereads_value {depth : Nat} {v : Json} (h : Tidy depth v) : (value depth).Rereads v v :=
  h.rereads

theorem rereads_null : (optional d).Rereads .null none := by
  intro rest _
  rfl

/-- What is not null is left to the decoder of what there is. -/
theorem Rereads.optional {depth : Nat} {v : Json} {x : α} (h : d.Rereads v x)
    (hv : Tidy depth v) (hnull : v ≠ .null) : (Decoder.optional d).Rereads v (some x) := by
  intro rest hrest
  have htake := h rest hrest
  have hread := hv.rereads rest hrest
  obtain ⟨b, u, hoctets, hblank, _⟩ := hv.starts
  rw [hoctets, List.cons_append] at htake hread ⊢
  unfold Decoder.optional
  simp only
  rw [skipBlanks_cons hblank]
  simp only
  rw [if_neg, htake]
  · rfl
  · intro hb
    exact hnull (null_of_takeValue hb hread)

theorem rereads_text? (x : Option String) : (Decoder.optional text).Rereads (.ofText? x) x := by
  cases x with
  | none => exact rereads_null
  | some s =>
    have htidy : Tidy 1 (.string s) := .string s
    exact (rereads_text s).optional htidy (by simp)

theorem rereads_value? {depth : Nat} {x : Option Json}
    (h : ∀ v ∈ x, v ≠ .null ∧ Tidy depth v) :
    (Decoder.optional (value depth)).Rereads (x.getD .null) x := by
  cases x with
  | none => exact rereads_null
  | some v =>
    obtain ⟨hnull, htidy⟩ := h v rfl
    exact (rereads_value htidy).optional htidy hnull

/-- What is taken as a string is made of one. -/
theorem parse_of_take {wanted : String} {parse : String → Except String α} {t rest : Octets}
    {x : α} (h : (parsed wanted parse).take t = .ok (x, rest)) : ∃ s, parse s = .ok x := by
  unfold parsed at h
  simp only at h
  split at h
  · cases h
  · split at h
    · split at h
      · cases h
      · rename_i s _ _
        split at h
        · rename_i y hy
          obtain ⟨rfl, _⟩ := Prod.mk.inj (Except.ok.inj h)
          exact ⟨s, hy⟩
        · cases h
    · cases h

/-- Where null stands for nothing, it is never a value. -/
theorem of_take_value? {depth : Nat} {t rest : Octets} {x : Option Json}
    (h : (Decoder.optional (value depth)).take t = .ok (x, rest)) :
    ∀ v ∈ x, v ≠ .null ∧ (v.hasFloat = false → Tidy depth v) := by
  unfold Decoder.optional at h
  simp only at h
  intro v hv
  split at h
  · rename_i b u hskip
    split at h
    · obtain ⟨_, _, hnone⟩ := ok_of_map h
      obtain ⟨rfl, _⟩ := Prod.mk.inj hnone
      cases hv
    · rename_i hb
      obtain ⟨⟨v', w⟩, htake, hsome⟩ := ok_of_map h
      obtain ⟨rfl, _⟩ := Prod.mk.inj hsome
      obtain rfl := Option.some.inj hv
      have hblank := isBlank_of_skipBlanks hskip
      exact ⟨ne_null_of_takeValue hblank hb htake, tidy_of_takeValue htake⟩
  · obtain ⟨⟨v', w⟩, htake, _⟩ := ok_of_map h
    change takeValue depth [] = _ at htake
    cases depth with
    | zero => cases htake
    | succ depth => cases htake

end Decoder

theorem Field.rereads_of {α β : Type} {name : String} {required mayEndList : Bool}
    {d : Decoder β} {set : β → α → α} {v : Json} {x : β} (h : d.Rereads v x) :
    (Field.of name required mayEndList d set).decoder.Rereads v (set x) := by
  intro rest hrest
  change (d.take _).map _ = _
  rw [h rest hrest]
  rfl

namespace Shape

variable {α : Type} (shape : Shape α)

/-! ## Members that are read back -/

/-- The members as they are written make one record of another, of which the named fields were given
before, and then no field is missing. -/
inductive Refills : (given : List String) → α → List (String × Json) → α → Prop
  | done {given : List String} {record : α} (complete : shape.missing? given = none) :
      Refills given record [] record
  | member {given : List String} {record record' : α} {name : String} {v : Json}
      {ms : List (String × Json)} {f : Field α} {set : α → α}
      (known : shape.field? name = some f) (fresh : name ∉ given)
      (reads : f.decoder.Rereads v set) (more : Refills (name :: given) (set record) ms record') :
      Refills given record ((name, v) :: ms) record'

variable {shape} {given : List String} {record record' : α} {ms : List (String × Json)}

theorem Refills.field {β : Type} {name : String} {required mayEndList : Bool} {d : Decoder β}
    {set : β → α → α} {v : Json} {x : β}
    (known : shape.field? name = some (.of name required mayEndList d set)) (fresh : name ∉ given)
    (reads : d.Rereads v x) (more : Refills shape (name :: given) (set x record) ms record') :
    Refills shape given record ((name, v) :: ms) record' :=
  .member known fresh (Field.rereads_of reads) more

theorem gives_end (later : Bool) (complete : shape.missing? given = none) :
    Gives (fun turns => takeByName shape turns later given record) [0x7D] record := by
  apply Gives.of_end (by decide)
  intro _ turns rest
  have hnext := nextName_end later (List.forall_mem_nil _) rest
  have hend := takeObjectEnd_append (List.forall_mem_nil _) rest
  rw [List.nil_append] at hnext hend
  rw [List.singleton_append, takeByName, hnext]
  simp only [complete, hend]
  rfl

/-- A field is filled, and then those behind it. -/
theorem gives_field {later : Bool} {lead : Octets} {name : String} {v : Json} {f : Field α}
    {set : α → α} (hlead : Leads later lead) (known : shape.field? name = some f)
    (fresh : name ∉ given) (reads : f.decoder.Rereads v set)
    (h : Gives (fun turns => takeByName shape turns true (name :: given) (set record))
      (ofChars (moreMembers ms)) record') :
    Gives (fun turns => takeByName shape turns later given record)
      (lead ++ ofChars (quoted name ++ ':' :: (v.chars ++ moreMembers ms))) record' := by
  rw [ofChars_member]
  apply h.of_turn
  · simp only [List.length_append, List.length_cons]
    omega
  · intro _ turns rest
    have hread := reads (ofChars (moreMembers ms) ++ rest) (ends_moreMembers ms rest)
    simp only [List.append_assoc, List.cons_append]
    rw [takeByName, nextName_quoted hlead]
    simp only [known]
    rw [if_neg (by simpa using fresh)]
    simp only [takeColon_colon, hread]
    rfl

theorem Refills.gives (h : Refills shape given record ms record') :
    Gives (fun turns => takeByName shape turns true given record) (ofChars (moreMembers ms))
      record' := by
  induction h with
  | done complete => exact gives_end true complete
  | member known fresh reads _ ih =>
    exact gives_field (.comma (List.forall_mem_nil _)) known fresh reads ih

/-- From the text of an object the record is taken that its members refill. -/
theorem Refills.take (h : Refills shape [] shape.blank ms record) (rest : Octets) :
    shape.take (ofChars (Json.object ms).chars ++ rest) = .ok (record, rest) := by
  have hgives : ∃ t, ofChars (Json.object ms).chars = 0x7B :: t ∧
      Gives (fun turns => takeByName shape turns false [] shape.blank) t record := by
    cases h with
    | done complete => exact ⟨_, rfl, gives_end false complete⟩
    | member known fresh reads more =>
      exact ⟨_, rfl, gives_field .first known fresh reads more.gives⟩
  obtain ⟨t, ht, hgives⟩ := hgives
  have htake := hgives.whole 0x7B rest
  unfold Shape.take
  rw [ht, List.cons_append, skipBlanks_cons (by decide)]
  simp only
  rw [if_neg (by decide), if_pos (by decide), htake]

/-- The whole text of an object is the record that its members refill. -/
theorem Refills.readWhole (h : Refills shape [] shape.blank ms record) :
    Json.readWhole shape.take (Octets.ofString (Json.object ms).text) = .ok record := by
  have htake := h.take []
  rw [List.append_nil] at htake
  unfold Json.readWhole Octets.ofString text
  rw [String.toList_ofList, htake]
  rfl

end Shape

/-! ## What every field keeps -/

/-- Whatever is taken for the field, a record keeps the property when it is filled in. -/
def Field.Keeps {α : Type} (P : α → Prop) (f : Field α) : Prop :=
  ∀ ⦃t set rest⦄, f.decoder.take t = .ok (set, rest) → ∀ record, P record → P (set record)

theorem Field.keeps_of {α β : Type} {P : α → Prop} {name : String} {required mayEndList : Bool}
    {d : Decoder β} {set : β → α → α}
    (h : ∀ t x rest, d.take t = .ok (x, rest) → ∀ record, P record → P (set x record)) :
    (Field.of name required mayEndList d set).Keeps P := by
  intro t set' rest htake record hrecord
  obtain ⟨⟨x, u⟩, hx, hset⟩ := ok_of_map htake
  obtain ⟨rfl, _⟩ := Prod.mk.inj hset
  exact h t x u hx record hrecord

namespace Shape

variable {α : Type} {shape : Shape α} {P : α → Prop} {record record' : α} {t rest : Octets}

theorem keeps_takeByName (hf : ∀ f ∈ shape.fields, f.Keeps P) {turns : Octets} {later : Bool}
    {given : List String} (hrecord : P record)
    (h : takeByName shape turns later given record t = .ok (record', rest)) : P record' := by
  induction turns generalizing later given record t with
  | nil => cases h
  | cons _ turns ih =>
    unfold takeByName at h
    split at h
    · cases h
    · split at h
      · cases h
      · obtain ⟨_, _, hend⟩ := ok_of_map h
        obtain ⟨rfl, _⟩ := Prod.mk.inj hend
        exact hrecord
    · split at h
      · split at h
        · cases h
        · split at h
          · cases h
          · exact ih hrecord h
      · rename_i f hknown
        split at h
        · cases h
        · split at h
          · cases h
          · split at h
            · cases h
            · rename_i set u hset
              apply ih _ h
              exact hf f (List.mem_of_find?_eq_some hknown) (ok_of_mapError hset) _ hrecord

theorem keeps_takeInOrder {fields : List (Field α)} (hf : ∀ f ∈ fields, f.Keeps P) {index : Nat}
    (hrecord : P record)
    (h : takeInOrder shape fields index record t = .ok (record', rest)) : P record' := by
  induction fields generalizing index record t with
  | nil =>
    obtain ⟨_, _, hend⟩ := ok_of_map h
    obtain ⟨rfl, _⟩ := Prod.mk.inj hend
    exact hrecord
  | cons f fields ih =>
    obtain ⟨hfirst, hfields⟩ := List.forall_mem_cons.1 hf
    unfold takeInOrder at h
    split at h
    · cases h
    · split at h
      · exact ih hfields hrecord h
      · cases h
    · split at h
      · cases h
      · rename_i set u hset
        exact ih hfields (hfirst (ok_of_mapError hset) _ hrecord) h

/-- What is true of a record with nothing in it, and kept by every field, is true of a record that
is taken from an object or from a list. -/
theorem all_of_take (hf : ∀ f ∈ shape.fields, f.Keeps P) (hblank : P shape.blank)
    (h : shape.take t = .ok (record, rest)) : P record := by
  unfold Shape.take at h
  split at h
  · cases h
  · split at h
    · exact keeps_takeInOrder hf hblank h
    · split at h
      · exact keeps_takeByName hf hblank h
      · cases h

end Shape

end Workspaces.Json
