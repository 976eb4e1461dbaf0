-- What a text gives for the fields of a record: an object gives it under their names, a list in
-- their places. A field takes the one value that is given for it, and stays blank if none is.
import Mathlib.Data.List.Nodup
import Workspaces.Proofs.Json.Fronts
import Workspaces.Proofs.Json.Records

namespace Workspaces.Json

/-! ## What is given -/

/-- What the items of a list say in the place of the name, when they stand for these names. -/
def itemsOf (names : List String) (es : List Entry) (key : String) : List (Option Json) :=
  ((names.zip es).filter fun e => e.1 = key).map fun e => read? e.2.value

/-- The text begins with an object or with a list, which gives these values under each name. -/
inductive GivesUnder (names : List String) : (given : String → List (Option Json)) → Octets → Prop
  | object {a t rest : Octets} {ms : List Entry} (before : IsBlanks a)
      (inside : Spells (.inside .object ms) t) :
      GivesUnder names (valuesOf ms) (a ++ 0x7B :: (t ++ 0x7D :: rest))
  | list {a t rest : Octets} {es : List Entry} (before : IsBlanks a)
      (inside : Spells (.inside .list es) t) :
      GivesUnder names (itemsOf names es) (a ++ 0x5B :: (t ++ 0x5D :: rest))

theorem IsObject.gives {ms : List Entry} {t : Octets} (h : IsObject ms t) (names : List String) :
    GivesUnder names (valuesOf ms) t := by
  cases h with
  | braces before inside behind => exact .object before inside

theorem IsFront.gives {names : List String} {t : Octets} (h : IsFront names t) (rest : Octets) :
    ∃ given, GivesUnder names given (t ++ rest) := by
  cases h with
  | @list a u es before inside =>
    have hgives : GivesUnder names (itemsOf names es) (a ++ 0x5B :: (u ++ 0x5D :: rest)) :=
      .list before inside.spells
    exact ⟨itemsOf names es, by simpa using hgives⟩
  | @object a u ms before inside legible =>
    have hgives : GivesUnder names (valuesOf ms) (a ++ 0x7B :: (u ++ 0x7D :: rest)) :=
      .object before inside
    exact ⟨valuesOf ms, by simpa using hgives⟩

namespace Shape

variable {α : Type} {shape : Shape α} {record record' : α}

/-! ## Lists -/

/-- The items make one record of another, each by the field in its place; fields are left over only
if a list may end before them. -/
inductive FillsInOrder : List (Field α) → α → List Entry → α → Prop
  | done {record : α} : FillsInOrder [] record [] record
  | ended {f : Field α} {fields : List (Field α)} {record record' : α}
      (may : f.mayEndList = true) (more : FillsInOrder fields record [] record') :
      FillsInOrder (f :: fields) record [] record'
  | filled {f : Field α} {fields : List (Field α)} {record record' : α} {e : Entry}
      {es : List Entry} {v : Json} {set : α → α} (value : ofOctets e.value = .ok v)
      (reads : f.decoder.ofValue v = .ok set)
      (more : FillsInOrder fields (set record) es record') :
      FillsInOrder (f :: fields) record (e :: es) record'

theorem fillsInOrder_of_take {fields : List (Field α)} (hf : ∀ f ∈ fields, f.decoder.Faithful)
    {index : Nat} {es : List Entry} {t rest u : Octets}
    (h : Spells (.left (index ≠ 0) .list es) t)
    (htake : takeInOrder shape fields index record (t ++ 0x5D :: rest) = .ok (record', u)) :
    FillsInOrder fields record es record' := by
  induction fields generalizing index es t record with
  | nil =>
    cases es with
    | nil =>
      rw [takeInOrder, takeListEnd_append h.left_nil] at htake
      obtain ⟨rfl, _⟩ := Prod.mk.inj (Except.ok.inj htake)
      exact .done
    | cons e es =>
      obtain ⟨lead, v, w, hlead, entry, more, rfl⟩ := h.left_cons
      obtain ⟨stop, hstop⟩ := takeListEnd_entry hlead entry (w ++ 0x5D :: rest)
      rw [List.append_assoc, List.append_assoc, takeInOrder, hstop] at htake
      cases htake
  | cons f fields ih =>
    obtain ⟨hfaithful, hfields⟩ := List.forall_mem_cons.1 hf
    cases es with
    | nil =>
      rw [takeInOrder, nextItem_end _ h.left_nil] at htake
      simp only at htake
      split at htake
      · rename_i may
        have hmore : Spells (.left (index + 1 ≠ 0) .list []) t := .left_end _ h.left_nil
        exact .ended may (ih hfields hmore htake)
      · cases htake
    | cons e es =>
      obtain ⟨lead, v, w, hlead, entry, more, rfl⟩ := h.left_cons
      rw [List.append_assoc, List.append_assoc, takeInOrder, nextItem_entry hlead entry] at htake
      simp only at htake
      split at htake
      · cases htake
      · rename_i set y hitem
        have hnone : IsBlanks [] := List.forall_mem_nil _
        obtain ⟨rfl, x, value, reads⟩ :=
          hfaithful hnone entry.value_of_entry (more.ends rest) (ok_of_mapError hitem)
        have hmore : Spells (.left (index + 1 ≠ 0) .list es) w := by simpa using more
        exact .filled value reads (ih hfields hmore htake)

/-- The first field of a name is the one that is found under it. -/
theorem field?_of_mem (hnames : shape.names.Nodup) {f : Field α} (hf : f ∈ shape.fields) :
    shape.field? f.name = some f := by
  cases hfound : shape.field? f.name with
  | none =>
    have hother := List.find?_eq_none.1 hfound f hf
    simp at hother
  | some g =>
    obtain ⟨hg, hname⟩ := field?_spec hfound
    rw [List.inj_on_of_nodup_map hnames hg hf hname]

section OneField

variable {β γ : Type} {key : String} {write : β → Json} {part : α → γ} {put : β → γ}

theorem FillsInOrder.value_cases {fields : List (Field α)} {es : List Entry}
    (h : FillsInOrder fields record es record') (hnames : (fields.map (·.name)).Nodup)
    (hfields : ∀ f ∈ fields, shape.field? f.name = some f)
    (hset : shape.SetUnder key write part put) :
    (itemsOf (fields.map (·.name)) es key = [] ∧ part record' = part record ∧
      ∀ f ∈ fields, f.name = key → f.mayEndList = true) ∨
    ∃ x, itemsOf (fields.map (·.name)) es key = [some (write x)] ∧ part record' = put x := by
  induction h with
  | done => exact .inl ⟨rfl, rfl, List.forall_mem_nil _⟩
  | @ended f fields record record' may more ih =>
    obtain ⟨_, hmore⟩ := List.nodup_cons.1 hnames
    rcases ih hmore (List.forall_mem_cons.1 hfields).2 with ⟨_, hpart, hmay⟩ | ⟨x, hvalues, _⟩
    · exact .inl ⟨rfl, hpart, List.forall_mem_cons.2 ⟨fun _ => may, hmay⟩⟩
    · simp [itemsOf] at hvalues
  | @filled f fields record record' e es v set value reads more ih =>
    obtain ⟨hfresh, hmore⟩ := List.nodup_cons.1 hnames
    obtain ⟨hfound, hfields⟩ := List.forall_mem_cons.1 hfields
    have hcons : itemsOf (f.name :: fields.map (·.name)) (e :: es) key =
        if f.name = key then some v :: itemsOf (fields.map (·.name)) es key
        else itemsOf (fields.map (·.name)) es key := by
      unfold itemsOf
      rw [List.zip_cons_cons, List.filter_cons]
      by_cases hname : f.name = key <;> simp [hname, read?, value, Except.toOption]
    rw [List.map_cons, hcons]
    rcases hset hfound reads with ⟨rfl, x, rfl, hput⟩ | ⟨hname, hkept⟩
    · rw [if_pos rfl]
      -- No other field has the name, so nothing else is given for it.
      have hnone : itemsOf (fields.map (·.name)) es f.name = [] := by
        unfold itemsOf
        rw [List.map_eq_nil_iff, List.filter_eq_nil_iff]
        rintro ⟨name, d⟩ hmem heq
        obtain rfl : name = f.name := of_decide_eq_true heq
        exact hfresh (List.of_mem_zip hmem).1
      rw [hnone]
      rcases ih hmore hfields with ⟨_, hpart, _⟩ | ⟨y, hvalues, _⟩
      · exact .inr ⟨x, rfl, hpart.trans (hput record)⟩
      · rw [hnone] at hvalues
        cases hvalues
    · rw [if_neg hname]
      rcases ih hmore hfields with ⟨hnone, hpart, hmay⟩ | hsome
      · refine .inl ⟨hnone, hpart.trans (hkept record), ?_⟩
        exact List.forall_mem_cons.2 ⟨fun heq => absurd heq hname, hmay⟩
      · exact .inr hsome

/-! ## Objects and lists -/

/-- What becomes of a part of the record that only one field sets: it is blank if nothing is given
for the field, which only a field that may be missing allows, and otherwise it is what the one value
says that is given. -/
theorem value_cases_of_take (hf : ∀ f ∈ shape.fields, f.decoder.Faithful)
    (hnames : shape.names.Nodup) (hkey : key ∈ shape.names)
    (hset : shape.SetUnder key write part put) {given : String → List (Option Json)}
    {t u : Octets} (hgives : GivesUnder shape.names given t)
    (htake : shape.take t = .ok (record, u)) :
    (given key = [] ∧ part record = part shape.blank ∧
      ∀ f ∈ shape.fields, f.name = key → f.required = true → f.mayEndList = true) ∨
    ∃ x, given key = [some (write x)] ∧ part record = put x := by
  cases hgives with
  | object before inside =>
    have hfills := fills_of_take hf before inside htake
    rcases hfills.value_cases (ne_none_of_mem_names hkey) hset with
      ⟨hnone, hpart, hgiven | hmissing⟩ | ⟨_, hsome⟩
    · cases hgiven
    · refine .inl ⟨hnone, hpart, fun f hf hname hrequired => ?_⟩
      rw [hmissing f (hname ▸ field?_of_mem hnames hf)] at hrequired
      cases hrequired
    · exact .inr hsome
  | @list a t rest es before inside =>
    unfold take at htake
    rw [skipBlanks_append before, skipBlanks_cons (by decide)] at htake
    simp only at htake
    rw [if_pos (by decide)] at htake
    have hleft : Spells (.left ((0 : Nat) ≠ 0) .list es) t := inside
    have hfills := fillsInOrder_of_take hf hleft htake
    rcases hfills.value_cases hnames (fun g hg => field?_of_mem hnames hg) hset with
      ⟨hnone, hpart, hmay⟩ | hsome
    · exact .inl ⟨hnone, hpart, fun f hf hname _ => hmay f hf hname⟩
    · exact .inr hsome

end OneField

end Shape

end Workspaces.Json
