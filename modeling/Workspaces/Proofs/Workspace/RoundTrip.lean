-- Records told again: what is written for a workspace, a draft or a revision that was read from a
-- text is read as the same record, however the text spelled it.
import Workspaces.Proofs.Instant.Timestamp
import Workspaces.Proofs.Json.RecordsReread
import Workspaces.Proofs.Uuid.Spelling
import Workspaces.Rules

namespace Workspaces

open Json (Decoder Tidy)

/-! ## Ids and moments -/

theorem Uuid.rereads (u : Uuid) : Uuid.decoder.Rereads (.string u.text) u := by
  apply Decoder.rereads_parsed
  rw [read_text]
  rfl

theorem Timestamp.rereads {t : Instant} (h : t.Real) :
    Timestamp.decoder.Rereads (.string t.text) t := by
  apply Decoder.rereads_parsed
  rw [read_text h]
  rfl

theorem Timestamp.real_of_take {t rest : Octets} {i : Instant}
    (h : Timestamp.decoder.take t = .ok (i, rest)) : i.Real := by
  obtain ⟨s, hs⟩ := Decoder.parse_of_take h
  exact real_of_read (ok_of_mapError hs)

/-! ## Workspaces -/

namespace Workspace

/-- What every workspace that is read keeps to. -/
structure Legible (w : Workspace) : Prop where
  state : w.state.hasFloat = false → Tidy (Json.depthLimit - 1) w.state
  created : w.createdAt.Real
  updated : w.updatedAt.Real

theorem legible_blank : blank.Legible where
  state _ := .null
  created := ⟨by decide, by decide, by decide⟩
  updated := ⟨by decide, by decide, by decide⟩

theorem legible_of_ofOctets {t : Octets} {w : Workspace} (h : ofOctets t = .ok w) : w.Legible := by
  obtain ⟨rest, htake⟩ := Json.take_of_readWhole h
  apply Json.Shape.all_of_take _ legible_blank htake
  intro f hf
  unfold shape at hf
  simp only [List.mem_cons, List.not_mem_nil, or_false] at hf
  rcases hf with rfl | rfl | rfl | rfl | rfl | rfl | rfl | rfl
  case inr.inr.inr.inr.inr.inl =>
    exact Json.Field.keeps_of fun t v rest hv w hw =>
      ⟨Json.tidy_of_takeValue hv, hw.created, hw.updated⟩
  case inr.inr.inr.inr.inr.inr.inl =>
    exact Json.Field.keeps_of fun t i rest hi w hw =>
      ⟨hw.state, Timestamp.real_of_take hi, hw.updated⟩
  case inr.inr.inr.inr.inr.inr.inr =>
    exact Json.Field.keeps_of fun t i rest hi w hw =>
      ⟨hw.state, hw.created, Timestamp.real_of_take hi⟩
  all_goals exact Json.Field.keeps_of fun t x rest hx w hw => ⟨hw.state, hw.created, hw.updated⟩

theorem ofOctets_toJson {w : Workspace} (h : w.Legible) (hfloat : w.state.hasFloat = false) :
    ofOctets (Octets.ofString w.toJson.text) = .ok w := by
  apply Json.Shape.Refills.readWhole
  apply Json.Shape.Refills.field rfl (by simp) (Uuid.rereads _)
  apply Json.Shape.Refills.field rfl (by simp) (Decoder.rereads_text _)
  apply Json.Shape.Refills.field rfl (by simp) (Decoder.rereads_text? _)
  apply Json.Shape.Refills.field rfl (by simp) (Decoder.rereads_text? _)
  apply Json.Shape.Refills.field rfl (by simp) (Decoder.rereads_text? _)
  apply Json.Shape.Refills.field rfl (by simp) (Decoder.rereads_value (h.state hfloat))
  apply Json.Shape.Refills.field rfl (by simp) (Timestamp.rereads h.created)
  apply Json.Shape.Refills.field rfl (by simp) (Timestamp.rereads h.updated)
  exact .done rfl

/-- A workspace that was read from a text of any spelling is written as a text that is read as the
same workspace, and that one is written the same way again. -/
theorem a_workspace_is_read_back_from_its_text (t : Octets) (w : Workspace)
    (hread : ofOctets t = .ok w) (hfloat : w.state.hasFloat = false) :
    ∃ w', ofOctets (Octets.ofString w.toJson.text) = .ok w' ∧ w' = w ∧
      w'.toJson.text = w.toJson.text :=
  ⟨w, ofOctets_toJson (legible_of_ofOctets hread) hfloat, rfl, rfl⟩

namespace Sample

/-- A workspace of the year 12000 that was changed within the leap second at the end of 2016. -/
def farWorkspace : Workspace :=
  ⟨⟨0x10⟩, "\t\u00E9", none, some "", none, .object [("a", .array [.number (.integer (-1))])],
    ⟨⟨12000, 2, 29⟩, 0, 0⟩, ⟨⟨2016, 12, 31⟩, 86399, 1250000000⟩⟩

/-- It as a list, with an escape that it does not need, and on a clock that is ahead. -/
def farText : Octets := Octets.ofString <| "[\"URN:UUID:00000000-0000-0000-0000-000000000010\", " ++
  "\"\\t\\u00e9\", null, \"\", null, \x7b\"a\": [-1]\x7d, " ++
  "\"+12000-02-29T00:00:00UTC\", \"2017-1-1 05:29:60.25000 +05:30\"]"

end Sample

theorem the_workspace_of_a_far_year_is_read_back :
    ofOctets Sample.farText = .ok Sample.farWorkspace ∧
    Sample.farWorkspace.state.hasFloat = false ∧
    ∃ w', ofOctets (Octets.ofString Sample.farWorkspace.toJson.text) = .ok w' ∧
      w' = Sample.farWorkspace ∧ w'.toJson.text = Sample.farWorkspace.toJson.text := by
  have hread : ofOctets Sample.farText = .ok Sample.farWorkspace := by decide +kernel
  have hfloat : Sample.farWorkspace.state.hasFloat = false := by decide
  exact ⟨hread, hfloat, a_workspace_is_read_back_from_its_text _ _ hread hfloat⟩

end Workspace

/-! ## Drafts and revisions -/

/-- What every state that is read with a draft or a revision keeps to. -/
def LegibleState (state : Option Json) : Prop :=
  ∀ v ∈ state, v ≠ .null ∧ (v.hasFloat = false → Tidy (Json.depthLimit - 1) v)

/-- A state that is read with a record is legible, if no other field touches it. -/
theorem legible_of_readWhole {α : Type} {shape : Json.Shape α} (state : α → Option Json)
    {t : Octets} {x : α} (hf : ∀ f ∈ shape.fields, f.Keeps fun x => LegibleState (state x))
    (hblank : state shape.blank = none) (h : Json.readWhole shape.take t = .ok x) :
    LegibleState (state x) := by
  obtain ⟨rest, htake⟩ := Json.take_of_readWhole h
  apply Json.Shape.all_of_take hf _ htake
  intro v hv
  rw [hblank] at hv
  cases hv

theorem LegibleState.rereads {state : Option Json} (h : LegibleState state)
    (hfloat : ∀ v ∈ state, v.hasFloat = false) :
    (Decoder.optional (.value (Json.depthLimit - 1))).Rereads (state.getD .null) state := by
  apply Decoder.rereads_value?
  intro v hv
  obtain ⟨hnull, htidy⟩ := h v hv
  exact ⟨hnull, htidy (hfloat v hv)⟩

namespace Draft

theorem legible_of_ofOctets {t : Octets} {d : Draft} (h : ofOctets t = .ok d) :
    LegibleState d.state := by
  apply legible_of_readWhole state _ rfl h
  intro f hf
  unfold shape at hf
  simp only [List.mem_cons, List.not_mem_nil, or_false] at hf
  rcases hf with rfl | rfl | rfl | rfl | rfl
  case inr.inr.inr.inr =>
    exact Json.Field.keeps_of fun t x rest hx d hd => Decoder.of_take_value? hx
  all_goals exact Json.Field.keeps_of fun t x rest hx d hd => hd

theorem ofOctets_toJson {d : Draft} (h : LegibleState d.state)
    (hfloat : ∀ v ∈ d.state, v.hasFloat = false) :
    ofOctets (Octets.ofString d.toJson.text) = .ok d := by
  apply Json.Shape.Refills.readWhole
  apply Json.Shape.Refills.field rfl (by simp) (Decoder.rereads_text _)
  apply Json.Shape.Refills.field rfl (by simp) (Decoder.rereads_text? _)
  apply Json.Shape.Refills.field rfl (by simp) (Decoder.rereads_text? _)
  apply Json.Shape.Refills.field rfl (by simp) (Decoder.rereads_text? _)
  apply Json.Shape.Refills.field rfl (by simp) (h.rereads hfloat)
  exact .done rfl

end Draft

/-- What a text says of a value that may be missing tells the three kinds of edit apart: nothing
keeps it, null clears it and a string is written. -/
def Edit.ToldBy (e : Edit String) (said : Option Json) : Prop :=
  (said = none ↔ e = .keep) ∧ (said = some .null ↔ e = .clear) ∧
    ∀ x, said = some (.string x) ↔ e = .write x

namespace Revision

theorem legible_of_ofOctets {t : Octets} {r : Revision} (h : ofOctets t = .ok r) :
    LegibleState r.state := by
  apply legible_of_readWhole state _ rfl h
  intro f hf
  unfold shape at hf
  simp only [List.mem_cons, List.not_mem_nil, or_false] at hf
  rcases hf with rfl | rfl | rfl | rfl | rfl
  case inr.inr.inr.inr =>
    exact Json.Field.keeps_of fun t x rest hx r hr => Decoder.of_take_value? hx
  all_goals exact Json.Field.keeps_of fun t x rest hx r hr => hr

/-- A kept value is left out, and no member gives it. An edit of it is read as it is written. -/
theorem refills_edit (set : Edit String → Revision → Revision) {given : List String}
    {name : String} {e : Edit String} {r r' : Revision} {ms : List (String × Json)}
    (known : shape.field? name =
      some (.of name false true (.optional .text) fun x => set (.replace x)))
    (fresh : name ∉ given) (kept : set .keep r = r)
    (more : ∀ given', (∀ key ∉ given, key ≠ name → key ∉ given') →
      shape.Refills given' (set e r) ms r') :
    shape.Refills given r (editMember name e ++ ms) r' := by
  have hname : ∀ key ∉ given, key ≠ name → key ∉ name :: given :=
    fun key hkey hne => List.not_mem_cons_of_ne_of_not_mem hne hkey
  cases e with
  | keep =>
    rw [kept] at more
    exact more given fun key hkey _ => hkey
  | clear => exact .field known fresh (Decoder.rereads_text? none) (more _ hname)
  | write x => exact .field known fresh (Decoder.rereads_text? (some x)) (more _ hname)

theorem ofOctets_toJson {r : Revision} (h : LegibleState r.state)
    (hfloat : ∀ v ∈ r.state, v.hasFloat = false) :
    ofOctets (Octets.ofString r.toJson.text) = .ok r := by
  apply Json.Shape.Refills.readWhole
  apply Json.Shape.Refills.field rfl (by simp) (Decoder.rereads_text? _)
  rw [List.append_assoc, List.append_assoc]
  -- Which of the three edits are written is open. All that is carried along is that the names
  -- still to come were not given.
  apply refills_edit (fun e r => { r with description := e }) rfl (by simp) rfl
  intro given₁ h₁
  have hicon := h₁ "icon" (by simp) (by simp)
  have hcolor := h₁ "color" (by simp) (by simp)
  have hstate := h₁ "state" (by simp) (by simp)
  apply refills_edit (fun e r => { r with icon := e }) rfl hicon rfl
  intro given₂ h₂
  apply refills_edit (fun e r => { r with color := e }) rfl (h₂ _ hcolor (by simp)) rfl
  intro given₃ h₃
  apply Json.Shape.Refills.field rfl (h₃ _ (h₂ _ hstate (by simp)) (by simp)) (h.rereads hfloat)
  exact .done rfl

/-! ### What the text of a revision says -/

theorem find?_editMember_of_ne {name key : String} (h : name ≠ key) (e : Edit String) :
    (editMember name e).find? (·.1 = key) = none := by
  cases e <;> simp [editMember, h]

theorem toldBy_editMember (name : String) (e : Edit String) :
    e.ToldBy (((editMember name e).find? (·.1 = name)).map (·.2)) := by
  cases e <;> simp [editMember, Edit.ToldBy]

theorem told_description (r : Revision) :
    r.description.ToldBy (r.toJson.member? "description") := by
  have htold := toldBy_editMember "description" r.description
  simpa [toJson, Json.member?, find?_editMember_of_ne] using htold

theorem told_icon (r : Revision) : r.icon.ToldBy (r.toJson.member? "icon") := by
  have htold := toldBy_editMember "icon" r.icon
  simpa [toJson, Json.member?, find?_editMember_of_ne] using htold

theorem told_color (r : Revision) : r.color.ToldBy (r.toJson.member? "color") := by
  have htold := toldBy_editMember "color" r.color
  simpa [toJson, Json.member?, find?_editMember_of_ne] using htold

end Revision

/-- A draft or a revision that was read from a text of any spelling is written as a text that is
read as the same one. What a revision keeps, clears and writes stay apart in its text, and no
revision has null for its state. -/
theorem requests_are_read_back_from_their_texts (t : Octets) :
    (∀ d, Draft.ofOctets t = .ok d → (∀ v ∈ d.state, v.hasFloat = false) →
      Draft.ofOctets (Octets.ofString d.toJson.text) = .ok d) ∧
    ∀ r, Revision.ofOctets t = .ok r → r.state ≠ some .null ∧
      ((∀ v ∈ r.state, v.hasFloat = false) →
        ∃ r', Revision.ofOctets (Octets.ofString r.toJson.text) = .ok r' ∧ r' = r ∧
          r'.description.ToldBy (r.toJson.member? "description") ∧
          r'.icon.ToldBy (r.toJson.member? "icon") ∧
          r'.color.ToldBy (r.toJson.member? "color") ∧
          r'.state ≠ some .null ∧ r'.isEmpty = r.isEmpty ∧ r'.check = r.check) := by
  constructor
  · intro d hread hfloat
    exact Draft.ofOctets_toJson (Draft.legible_of_ofOctets hread) hfloat
  · intro r hread
    have hlegible := Revision.legible_of_ofOctets hread
    have hnull : r.state ≠ some .null := fun h => (hlegible _ h).1 rfl
    refine ⟨hnull, fun hfloat => ⟨r, Revision.ofOctets_toJson hlegible hfloat, rfl, ?_⟩⟩
    exact ⟨r.told_description, r.told_icon, r.told_color, hnull, rfl, rfl⟩

namespace Sample

def draft : Draft := ⟨"A", none, some "", none, some (.object [])⟩

/-- The draft with its fields in another order, beside a member that is none of them. -/
def draftText : Octets := Octets.ofString
  "\x7b\"state\": \x7b\x7d, \"icon\": \"\", \"owner\": [null], \"name\": \"\\u0041\"\x7d"

def revision : Revision := ⟨none, .keep, .clear, .write "red", none⟩

def revisionText : Octets := Octets.ofString
  "\x7b\"state\": null, \"color\": \"red\", \"icon\": null\x7d"

end Sample

theorem a_draft_and_a_revision_of_each_kind_are_read_back :
    Draft.ofOctets Sample.draftText = .ok Sample.draft ∧
    Draft.ofOctets (Octets.ofString Sample.draft.toJson.text) = .ok Sample.draft ∧
    Revision.ofOctets Sample.revisionText = .ok Sample.revision ∧
    ∃ r, Revision.ofOctets (Octets.ofString Sample.revision.toJson.text) = .ok r ∧
      r = Sample.revision ∧ r.isEmpty = false := by
  have hdraft : Draft.ofOctets Sample.draftText = .ok Sample.draft := by decide +kernel
  have hrevision : Revision.ofOctets Sample.revisionText = .ok Sample.revision := by
    decide +kernel
  have hdrafts := (requests_are_read_back_from_their_texts Sample.draftText).1
  have hrevisions := (requests_are_read_back_from_their_texts Sample.revisionText).2
  refine ⟨hdraft, hdrafts _ hdraft (by simp [Sample.draft, Json.hasFloat, Json.membersHaveFloat]),
    hrevision, ?_⟩
  obtain ⟨_, hback⟩ := hrevisions _ hrevision
  obtain ⟨r, hr, rfl, _⟩ := hback (by simp [Sample.revision])
  exact ⟨Sample.revision, hr, rfl, rfl⟩

end Workspaces
