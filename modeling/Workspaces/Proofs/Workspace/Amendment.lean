-- What a client asks for when it revises a workspace: of each field it gives a value, null or
-- nothing, and what it says of anything else does not matter.
import Workspaces.Proofs.Workspace.DataModel
import Workspaces.Proofs.Workspace.Readings

namespace Workspaces

/-! ## What is asked for -/

/-- A text after a revision that gives these values for it. It stays if none is given, and null
takes it away. No other values are possible. -/
def textAfter (old : Option String) : List (Option Json) → Option (Option String)
  | [] => some old
  | [some .null] => some none
  | [some (.string s)] => some (some s)
  | _ => none

/-- A name after a revision. It is trimmed, and null is as good as nothing. -/
def nameAfter (old : String) : List (Option Json) → Option String
  | [] | [some .null] => some old
  | [some (.string s)] => some (Text.trim s)
  | _ => none

/-- A state after a revision. It is an object, and null is as good as nothing. -/
def stateAfter (old : Json) : List (Option Json) → Option Json
  | [] | [some .null] => some old
  | [some (.object ms)] => some (.object ms)
  | _ => none

/-- Something else than null is given. -/
def GivesMore (values : List (Option Json)) : Prop := values ≠ [] ∧ values ≠ [some .null]

/-- A revision with these values under its names asks for a change. -/
def Touches (given : String → List (Option Json)) : Prop :=
  GivesMore (given "name") ∨ given "description" ≠ [] ∨ given "icon" ≠ [] ∨ given "color" ≠ [] ∨
    GivesMore (given "state")

/-- A workspace before and after a revision that gives these values. -/
structure Workspace.Amended (given : String → List (Option Json)) (now : Instant)
    (w w' : Workspace) : Prop where
  id : w'.id = w.id
  name : nameAfter w.name (given "name") = some w'.name
  description : textAfter w.description (given "description") = some w'.description
  icon : textAfter w.icon (given "icon") = some w'.icon
  color : textAfter w.color (given "color") = some w'.color
  state : stateAfter w.state (given "state") = some w'.state
  created : w'.createdAt = w.createdAt
  touched : Touches given → w'.updatedAt = now
  untouched : ¬ Touches given → w'.updatedAt = w.updatedAt

/-- The values under five names decide what becomes of a workspace. -/
theorem Workspace.Amended.unique {given given' : String → List (Option Json)} {now : Instant}
    {w v v' : Workspace} (h : w.Amended given now v) (h' : w.Amended given' now v')
    (hgiven : ∀ key ∈ ["name", "description", "icon", "color", "state"], given key = given' key) :
    v' = v := by
  have htouches : Touches given' ↔ Touches given := by
    unfold Touches
    rw [hgiven "name" (by simp), hgiven "description" (by simp), hgiven "icon" (by simp),
      hgiven "color" (by simp), hgiven "state" (by simp)]
  have hupdated : v'.updatedAt = v.updatedAt := by
    by_cases ht : Touches given
    · rw [h.touched ht, h'.touched (htouches.2 ht)]
    · rw [h.untouched ht, h'.untouched (htouches.not.2 ht)]
  have hid : v'.id = v.id := h'.id.trans h.id.symm
  have hcreated : v'.createdAt = v.createdAt := h'.created.trans h.created.symm
  have hname := h.name
  have hdescription := h.description
  have hicon := h.icon
  have hcolor := h.color
  have hstate := h.state
  rw [hgiven _ (by simp), h'.name] at hname
  rw [hgiven _ (by simp), h'.description] at hdescription
  rw [hgiven _ (by simp), h'.icon] at hicon
  rw [hgiven _ (by simp), h'.color] at hcolor
  rw [hgiven _ (by simp), h'.state] at hstate
  obtain ⟨_, _, _, _, _, _, _, _⟩ := v
  obtain ⟨_, _, _, _, _, _, _, _⟩ := v'
  simp only [Option.some.injEq] at hid hname hdescription hicon hcolor hstate hcreated hupdated
  simp only [hid, hname, hdescription, hicon, hcolor, hstate, hcreated, hupdated]

/-! ## Revisions as they are read -/

namespace Revision

variable {values : List (Option Json)}

/-- A name or a state is changed if something else than null is given for it. -/
theorem givesMore_iff {x : Option Json} (h : soleValue values = some x) :
    GivesMore values ↔ x ≠ none := by
  rcases soleValue_cases h with ⟨rfl, rfl⟩ | ⟨v, rfl, rfl⟩
  · simp [GivesMore]
  · cases v <;> simp [GivesMore, Json.present?]

theorem nameAfter_of_soleValue {name : Option String}
    (h : soleValue values = some (name.map .string)) (old : String) :
    nameAfter old values = some ((name.map Text.trim).getD old) := by
  rcases soleValue_cases h with ⟨rfl, hnone⟩ | ⟨v, rfl, hvalue⟩
  · rw [Option.map_eq_none_iff.1 hnone]
    rfl
  · cases name with
    | none => cases v <;> first | rfl | cases hvalue
    | some s => cases v <;> cases hvalue; rfl

/-- A state that keeps its rule is an object. -/
theorem stateAfter_of_soleValue {state : Option Json} (h : soleValue values = some state)
    (hrule : ∀ v ∈ state, Rules.checkState v = none) (old : Json) :
    stateAfter old values = some (state.getD old) := by
  rcases soleValue_cases h with ⟨rfl, rfl⟩ | ⟨v, rfl, rfl⟩
  · rfl
  · cases v with
    | null | object => rfl
    | bool | number | string | array =>
      have hobject := (Rules.checkState_eq_none_iff _).1 (hrule _ rfl)
      cases hobject

/-- A text is changed if anything is given for it, be it null. -/
theorem textAfter_of_textEdit {e : Edit String} (h : textEdit values = some e) :
    (∀ old, textAfter old values = some (e.apply old)) ∧ (values ≠ [] ↔ e ≠ .keep) := by
  unfold textEdit at h
  split at h
  · obtain rfl := Option.some.inj h
    exact ⟨fun _ => rfl, by simp⟩
  · obtain rfl := Option.some.inj h
    exact ⟨fun _ => rfl, by simp⟩
  · obtain rfl := Option.some.inj h
    exact ⟨fun _ => rfl, by simp⟩
  · cases h

variable {given : String → List (Option Json)} {r : Revision}

theorem isEmpty_iff : r.isEmpty = true ↔ r.name = none ∧ r.description = .keep ∧ r.icon = .keep ∧
    r.color = .keep ∧ r.state = none := by
  unfold isEmpty
  simp only [Bool.and_eq_true, decide_eq_true_eq, and_assoc]

/-- What a revision makes of a workspace is what was given for it. -/
theorem amended_of_says (h : r.Says given) (hcheck : r.check = .ok ()) (now : Instant)
    (w : Workspace) :
    w.Amended given now (if r.isEmpty then w else (r.changes now).apply w) := by
  obtain ⟨_, _, _, _, hrule⟩ := r.given.findings_eq_nil_iff.1 (r.check_eq_ok_iff.1 hcheck)
  have hname := nameAfter_of_soleValue h.name
  have hstate := stateAfter_of_soleValue h.state hrule
  obtain ⟨hdescription, hdescription'⟩ := textAfter_of_textEdit h.description
  obtain ⟨hicon, hicon'⟩ := textAfter_of_textEdit h.icon
  obtain ⟨hcolor, hcolor'⟩ := textAfter_of_textEdit h.color
  have htouches : Touches given ↔ ¬ r.isEmpty = true := by
    unfold Touches
    rw [isEmpty_iff, givesMore_iff h.name, hdescription', hicon', hcolor', givesMore_iff h.state]
    simp only [not_and_or, ne_eq, Option.map_eq_none_iff]
  by_cases hempty : r.isEmpty = true
  · have huntouched : ¬ Touches given := by
      rw [htouches, not_not]
      exact hempty
    rw [if_pos hempty]
    obtain ⟨hname₀, hdescription₀, hicon₀, hcolor₀, hstate₀⟩ := isEmpty_iff.1 hempty
    exact {
      id := rfl
      name := by rw [hname, hname₀]; rfl
      description := by rw [hdescription, hdescription₀]; rfl
      icon := by rw [hicon, hicon₀]; rfl
      color := by rw [hcolor, hcolor₀]; rfl
      state := by rw [hstate, hstate₀]; rfl
      created := rfl
      touched := fun h => absurd h huntouched
      untouched := fun _ => rfl }
  · have htouched : Touches given := htouches.2 hempty
    rw [if_neg hempty]
    exact {
      id := rfl
      name := hname w.name
      description := hdescription w.description
      icon := hicon w.icon
      color := hcolor w.color
      state := hstate w.state
      created := rfl
      touched := fun _ => rfl
      untouched := fun h => absurd htouched h }

end Revision

end Workspaces
