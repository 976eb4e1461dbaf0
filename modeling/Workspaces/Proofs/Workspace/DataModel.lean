-- The data model: what is true of every workspace that a draft or a revision without a breach
-- makes. The rules look at a name as it will be trimmed, and what is kept is the trimmed name.
import Mathlib.Data.List.DropRight
import Workspaces.Proofs.Instant.Order
import Workspaces.Proofs.Workspace.RuleSet
import Workspaces.Service

namespace Workspaces

/-! ## Trimming -/

namespace Text

/-- No blank stands in front, and to take the blanks off the end leaves the front alone. -/
theorem trimStart_trimEnd (cs : List Char) :
    trimStart (trimEnd (trimStart cs)) = trimEnd (trimStart cs) := by
  unfold trimStart
  rw [List.dropWhile_eq_self_iff]
  intro hlen
  -- The first character is that of `trimStart cs`, of which `trimEnd` keeps a prefix.
  have hprefix : trimEnd (cs.dropWhile isBlank) <+: cs.dropWhile isBlank :=
    List.rdropWhile_prefix isBlank _
  have hlen' : 0 < (cs.dropWhile isBlank).length := by
    have := hprefix.length_le
    omega
  have hhead := hprefix.getElem hlen
  rw [hhead]
  exact List.dropWhile_get_zero_not isBlank cs hlen'

theorem trimEnd_trimEnd (cs : List Char) : trimEnd (trimEnd cs) = trimEnd cs :=
  List.rdropWhile_idempotent isBlank cs

theorem trimStart_append {a : List Char} (h : ∀ ch ∈ a, isBlank ch = true) (cs : List Char) :
    trimStart (a ++ cs) = trimStart cs := List.dropWhile_append_of_pos h

theorem trimEnd_append {b : List Char} (h : ∀ ch ∈ b, isBlank ch = true) (cs : List Char) :
    trimEnd (cs ++ b) = trimEnd cs := by
  have hreverse : ∀ ch ∈ b.reverse, isBlank ch = true := fun ch hch => h ch (List.mem_reverse.1 hch)
  unfold trimEnd
  rw [List.reverse_append, List.dropWhile_append_of_pos hreverse]

/-- Blanks put at the ends of a text that was trimmed are taken off again. -/
theorem trim_padded {s : String} (hs : trim s = s) {a b : List Char}
    (ha : ∀ ch ∈ a, isBlank ch = true) (hb : ∀ ch ∈ b, isBlank ch = true) :
    trim (String.ofList (a ++ s.toList ++ b)) = s := by
  have hstart : trimStart s.toList = s.toList := by
    rw [← hs, trim, String.toList_ofList, trimStart_trimEnd]
  have hfront : trimEnd (trimStart (s.toList ++ b)) = trimEnd s.toList := by
    cases hcs : s.toList with
    | nil =>
      have hnone : trimStart b = [] := List.dropWhile_eq_nil_iff.2 hb
      rw [List.nil_append, hnone]
    | cons ch cs =>
      -- The first character is no blank, so none is taken off in front of the blanks behind.
      have hch : isBlank ch = false := by
        rw [hcs] at hstart
        have hhead := List.head?_dropWhile_not isBlank (ch :: cs)
        change trimStart (ch :: cs) = ch :: cs at hstart
        unfold trimStart at hstart
        rw [hstart] at hhead
        simpa using hhead
      unfold trimStart
      rw [List.cons_append, List.dropWhile_cons_of_neg (by simp [hch]), ← List.cons_append,
        trimEnd_append hb]
  have htrim : trim s = String.ofList (trimEnd s.toList) := by rw [trim, hstart]
  rw [trim, String.toList_ofList, List.append_assoc, trimStart_append ha, hfront, ← htrim, hs]

/-- A text that was trimmed is not trimmed any further. -/
theorem trim_trim (s : String) : trim (trim s) = trim s := by
  unfold trim
  rw [String.toList_ofList, trimStart_trimEnd, trimEnd_trimEnd]

end Text

/-! ## The data model -/

/-- What the data model asks of a name. -/
structure Workspace.IsName (t : String) : Prop where
  trimmed : Text.trim t = t
  length : 1 ≤ t.toList.length ∧ t.toList.length ≤ 255
  printable : ∀ ch ∈ t.toList, Text.isControl ch = false

/-- What the data model asks of a workspace. -/
structure Workspace.Sound (w : Workspace) : Prop where
  name : IsName w.name
  description : ∀ t ∈ w.description, t.toList.length ≤ 2000
  icon : ∀ t ∈ w.icon, t.toList.length ≤ 100
  color : ∀ t ∈ w.color, t.toList.length ≤ 50
  state : w.state.isObject = true
  created_first : w.createdAt ≤ w.updatedAt

/-- A name that keeps its rule is, once it is trimmed, a name of the data model. -/
theorem Rules.isName_trim (t : String) (h : checkName t = none) :
    Workspace.IsName (Text.trim t) := by
  obtain ⟨hne, hle, hprintable⟩ := (checkName_eq_none_iff t).1 h
  exact ⟨Text.trim_trim t, ⟨List.length_pos_iff.2 hne, hle⟩, hprintable⟩

/-! ## Drafts and revisions -/

/-- A draft that passes its check asks for a sound workspace. -/
theorem Draft.sound_of_check (d : Draft) (o : Occasion) (h : d.check = .ok ()) :
    (d.workspace o).Sound := by
  obtain ⟨hname, hdescription, hicon, hcolor, hstate⟩ :=
    d.given.findings_eq_nil_iff.1 (d.check_eq_ok_iff.1 h)
  exact {
    name := Rules.isName_trim d.name (hname _ rfl)
    description := fun t ht => (Rules.checkLength_eq_none_iff _ t).1 (hdescription t ht)
    icon := fun t ht => (Rules.checkLength_eq_none_iff _ t).1 (hicon t ht)
    color := fun t ht => (Rules.checkLength_eq_none_iff _ t).1 (hcolor t ht)
    state := by
      change (d.state.getD (.object [])).isObject = true
      cases hgiven : d.state with
      | none => rfl
      | some v => exact (Rules.checkState_eq_none_iff v).1 (hstate v hgiven)
    created_first := Instant.le_refl o.now }

/-- What an edit leaves keeps a rule that both the old value and the written one keep. -/
theorem Edit.apply_keeps {α : Type} (P : α → Prop) (e : Edit α) (old : Option α)
    (hold : ∀ x ∈ old, P x) (hnew : ∀ x ∈ e.written?, P x) : ∀ x ∈ e.apply old, P x := by
  cases e with
  | keep => exact hold
  | clear => simp [Edit.apply]
  | write x => exact hnew

/-- A revision that passes its check keeps a workspace sound, if the clock has not gone back since
the workspace was created. -/
theorem Revision.sound_of_check (r : Revision) (now : Instant) (w : Workspace)
    (h : r.check = .ok ()) (hw : w.Sound) (hclock : w.createdAt ≤ now) :
    ((r.changes now).apply w).Sound := by
  obtain ⟨hname, hdescription, hicon, hcolor, hstate⟩ :=
    r.given.findings_eq_nil_iff.1 (r.check_eq_ok_iff.1 h)
  exact {
    name := by
      change Workspace.IsName ((r.name.map Text.trim).getD w.name)
      cases hgiven : r.name with
      | none => exact hw.name
      | some t => exact Rules.isName_trim t (hname t hgiven)
    description := Edit.apply_keeps _ _ _ hw.description fun t ht =>
      (Rules.checkLength_eq_none_iff _ t).1 (hdescription t ht)
    icon := Edit.apply_keeps _ _ _ hw.icon fun t ht =>
      (Rules.checkLength_eq_none_iff _ t).1 (hicon t ht)
    color := Edit.apply_keeps _ _ _ hw.color fun t ht =>
      (Rules.checkLength_eq_none_iff _ t).1 (hcolor t ht)
    state := by
      change (r.state.getD w.state).isObject = true
      cases hgiven : r.state with
      | none => exact hw.state
      | some v => exact (Rules.checkState_eq_none_iff v).1 (hstate v hgiven)
    created_first := hclock }

end Workspaces
