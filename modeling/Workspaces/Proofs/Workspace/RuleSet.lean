-- One set of rules for drafts and revisions. Each is looked at in its own way, and what is found
-- lies in no order; what is told in the end is which of the given values break their rules, and no
-- more.
import Mathlib.Data.List.Sort
import Workspaces.Rules

namespace Workspaces

namespace Rules

/-! ## What the rule of a field asks -/

theorem checkLength_eq_none_iff (limit : Nat) (t : String) :
    checkLength limit t = none ↔ t.toList.length ≤ limit := by
  unfold checkLength
  split
  · rename_i h
    simpa using h
  · rename_i h
    simpa using h

theorem checkLength_eq_some_iff (limit : Nat) (t : String) (b : Breach) :
    checkLength limit t = some b ↔ limit < t.toList.length ∧ b = .tooLong limit := by
  unfold checkLength
  split
  · rename_i h
    simp [h, eq_comm]
  · rename_i h
    simp [h]

theorem checkState_eq_none_iff (v : Json) : checkState v = none ↔ v.isObject = true := by
  unfold checkState
  split <;> simp [*]

theorem checkState_eq_some_iff (v : Json) (b : Breach) :
    checkState v = some b ↔ v.isObject = false ∧ b = .stateNoObject := by
  unfold checkState
  split <;> simp [*, eq_comm]

/-- What the rule of a name asks of the trimmed name: the first of three demands that it does not
meet is told. -/
theorem checkName_cases (t : String) :
    ((Text.trim t).toList = [] ∧ checkName t = some .nameBlank) ∨
    (nameLimit < (Text.trim t).toList.length ∧ checkName t = some .nameTooLong) ∨
    ((Text.trim t).toList.length ≤ nameLimit ∧
      (∃ ch ∈ (Text.trim t).toList, Text.isControl ch = true) ∧
      checkName t = some .nameHasControl) ∨
    ((Text.trim t).toList ≠ [] ∧ (Text.trim t).toList.length ≤ nameLimit ∧
      (∀ ch ∈ (Text.trim t).toList, Text.isControl ch = false) ∧ checkName t = none) := by
  unfold checkName
  simp only
  split
  · rename_i hblank
    exact .inl ⟨hblank, rfl⟩
  · rename_i hblank
    split
    · rename_i hlong
      exact .inr (.inl ⟨hlong, rfl⟩)
    · rename_i hlong
      split
      · rename_i hcontrol
        exact .inr (.inr (.inl ⟨Nat.not_lt.1 hlong, List.any_eq_true.1 hcontrol, rfl⟩))
      · rename_i hcontrol
        exact .inr (.inr (.inr ⟨hblank, Nat.not_lt.1 hlong, by simpa using hcontrol, rfl⟩))

theorem checkName_eq_none_iff (t : String) :
    checkName t = none ↔ (Text.trim t).toList ≠ [] ∧ (Text.trim t).toList.length ≤ nameLimit ∧
      ∀ ch ∈ (Text.trim t).toList, Text.isControl ch = false := by
  rcases checkName_cases t with ⟨hblank, hcheck⟩ | ⟨hlong, hcheck⟩ |
    ⟨_, ⟨ch, hch, hcontrol⟩, hcheck⟩ | ⟨hblank, hlong, hcontrol, hcheck⟩
  · simp [hcheck, hblank]
  · have hlong' : ¬ (Text.trim t).toList.length ≤ nameLimit := Nat.not_le.2 hlong
    simp [hcheck, hlong']
  · rw [hcheck]
    refine ⟨fun h => (by cases h), fun ⟨_, _, hnone⟩ => ?_⟩
    rw [hnone ch hch] at hcontrol
    cases hcontrol
  · exact iff_of_true hcheck ⟨hblank, hlong, hcontrol⟩

/-! ## What is found -/

theorem mem_findings_iff (looks : List (String × Option Breach)) (field : String) (b : Breach) :
    (field, b) ∈ findings looks ↔ (field, some b) ∈ looks := by
  unfold findings
  rw [List.mem_filterMap]
  constructor
  · rintro ⟨⟨name, breach⟩, hlook, hfound⟩
    obtain ⟨b', rfl, heq⟩ := Option.map_eq_some_iff.1 hfound
    obtain ⟨rfl, rfl⟩ := Prod.mk.inj heq
    exact hlook
  · intro hlook
    exact ⟨(field, some b), hlook, rfl⟩

theorem findings_eq_nil_iff (looks : List (String × Option Breach)) :
    findings looks = [] ↔ ∀ look ∈ looks, look.2 = none := by
  unfold findings
  rw [List.filterMap_eq_nil_iff]
  simp only [Option.map_eq_none_iff]

/-- What is found stands under fields that were looked at, in the order of the looks. -/
theorem fields_findings (looks : List (String × Option Breach)) :
    ((findings looks).map (·.1)).Sublist (looks.map (·.1)) := by
  induction looks with
  | nil => exact List.Sublist.refl []
  | cons look looks ih =>
    obtain ⟨field, breach⟩ := look
    cases breach with
    | none => exact ih.cons field
    | some b => exact ih.cons_cons field

/-! ## The order in which it is told -/

/-- The one breach may be told before the other. -/
def UpTo (b c : String × Breach) : Prop := b.1 ≤ c.1

instance : DecidableRel UpTo := fun b c => inferInstanceAs (Decidable (b.1 ≤ c.1))

instance : Std.Total UpTo := ⟨fun b c => String.le_total b.1 c.1⟩

instance : IsTrans (String × Breach) UpTo := ⟨fun _ _ _ => String.le_trans⟩

theorem insertByField_eq (b : String × Breach) (found : List (String × Breach)) :
    insertByField b found = found.orderedInsert UpTo b := by
  induction found with
  | nil => rfl
  | cons c cs ih =>
    rw [insertByField, List.orderedInsert_cons, ih]
    by_cases h : c.1 < b.1
    · have hnot : ¬ UpTo b c := fun hle => String.not_lt.2 hle h
      rw [if_pos h, if_neg hnot]
    · have hle : UpTo b c := String.not_lt.1 h
      rw [if_neg h, if_pos hle]

theorem byField_eq (found : List (String × Breach)) : byField found = found.insertionSort UpTo := by
  unfold byField
  induction found with
  | nil => rfl
  | cons b found ih => rw [List.foldr_cons, ih, insertByField_eq, List.insertionSort_cons]

theorem byField_perm (found : List (String × Breach)) : (byField found).Perm found := by
  rw [byField_eq]
  exact List.perm_insertionSort UpTo found

theorem byField_sorted (found : List (String × Breach)) : (byField found).Pairwise UpTo := by
  rw [byField_eq]
  exact List.pairwise_insertionSort UpTo found

/-- If no field is in breach twice, the order in which breaches are found makes no difference. -/
theorem byField_of_perm {found found' : List (String × Breach)} (hperm : found'.Perm found)
    (honce : (found.map (·.1)).Nodup) : byField found' = byField found := by
  have hsame : (byField found').Perm (byField found) :=
    (byField_perm found').trans (hperm.trans (byField_perm found).symm)
  apply hsame.eq_of_pairwise _ (byField_sorted found') (byField_sorted found)
  intro b c hb hc hbc hcb
  have hfield : b.1 = c.1 := String.le_antisymm hbc hcb
  have hb' : b ∈ found := hperm.mem_iff.1 ((byField_perm found').mem_iff.1 hb)
  exact List.inj_on_of_nodup_map honce hb' ((byField_perm found).mem_iff.1 hc) hfield

/-- Breaches that are told by field stand under strictly ascending fields. -/
theorem byField_ascending {found : List (String × Breach)} (honce : (found.map (·.1)).Nodup) :
    (byField found).Pairwise fun b c => b.1 < c.1 := by
  have honce' : ((byField found).map (·.1)).Nodup :=
    ((byField_perm found).map (·.1)).nodup_iff.2 honce
  have hboth := (byField_sorted found).and (List.pairwise_map.1 honce')
  apply hboth.imp
  rintro b c ⟨hle, hne⟩
  by_contra hnot
  exact hne (String.le_antisymm hle (String.not_lt.1 hnot))

/-! ## Verdicts -/

theorem verdict_eq_ok_iff (details : List Detail) : verdict details = .ok () ↔ details = [] := by
  unfold verdict
  split <;> simp [*]

/-- A request is let through if nothing is wrong with it, and else is told all that is. -/
theorem verdict_cases (details : List Detail) :
    (details = [] ∧ verdict details = .ok ()) ∨
      (details ≠ [] ∧ ∃ message, verdict details = .error (.validation message details)) := by
  unfold verdict
  by_cases hnone : details = []
  · exact .inl ⟨hnone, if_pos hnone⟩
  · exact .inr ⟨hnone, _, if_neg hnone⟩

end Rules

/-! ## The rules -/

/-- The values that a request gives for the fields of a workspace. Null gives none. -/
structure Given where
  name : Option String
  description : Option String
  icon : Option String
  color : Option String
  state : Option Json
  deriving DecidableEq, Repr

def Draft.given (d : Draft) : Given := ⟨some d.name, d.description, d.icon, d.color, d.state⟩

def Revision.given (r : Revision) : Given :=
  ⟨r.name, r.description.written?, r.icon.written?, r.color.written?, r.state⟩

namespace Given

variable (g : Given)

/-- The value that is given for the field breaks the rule of the field, and the code tells how. -/
inductive Breaks : (field code : String) → Prop
  | blankName {t : String} (given : g.name = some t) (blank : (Text.trim t).toList = []) :
      Breaks "name" "required"
  | longName {t : String} (given : g.name = some t) (long : 255 < (Text.trim t).toList.length) :
      Breaks "name" "too_long"
  | controlInName {t : String} (given : g.name = some t)
      (short : (Text.trim t).toList.length ≤ 255) {ch : Char} (mem : ch ∈ (Text.trim t).toList)
      (control : Text.isControl ch = true) : Breaks "name" "invalid_characters"
  | description {t : String} (given : g.description = some t) (long : 2000 < t.toList.length) :
      Breaks "description" "too_long"
  | icon {t : String} (given : g.icon = some t) (long : 100 < t.toList.length) :
      Breaks "icon" "too_long"
  | color {t : String} (given : g.color = some t) (long : 50 < t.toList.length) :
      Breaks "color" "too_long"
  | state {v : Json} (given : g.state = some v) (noObject : v.isObject = false) :
      Breaks "state" "invalid_state"

/-- What the rules find in the values. -/
def findings : List (String × Breach) :=
  Rules.findings [
    ("name", g.name.bind Rules.checkName),
    ("description", g.description.bind (Rules.checkLength Rules.descriptionLimit)),
    ("icon", g.icon.bind (Rules.checkLength Rules.iconLimit)),
    ("color", g.color.bind (Rules.checkLength Rules.colorLimit)),
    ("state", g.state.bind Rules.checkState)]

theorem findings_eq_nil_iff : g.findings = [] ↔
    (∀ t ∈ g.name, Rules.checkName t = none) ∧
    (∀ t ∈ g.description, Rules.checkLength Rules.descriptionLimit t = none) ∧
    (∀ t ∈ g.icon, Rules.checkLength Rules.iconLimit t = none) ∧
    (∀ t ∈ g.color, Rules.checkLength Rules.colorLimit t = none) ∧
    ∀ v ∈ g.state, Rules.checkState v = none := by
  unfold findings
  rw [Rules.findings_eq_nil_iff]
  simp [Option.bind_eq_none_iff]

theorem fields_nodup : (g.findings.map (·.1)).Nodup := by
  have hfields : ["name", "description", "icon", "color", "state"].Nodup := by decide
  exact hfields.sublist (Rules.fields_findings _)

/-- The rules find the values that break them. -/
theorem breaks_iff (field code : String) :
    g.Breaks field code ↔ ∃ b, (field, b) ∈ g.findings ∧ b.code = code := by
  unfold findings
  simp only [Rules.mem_findings_iff]
  constructor
  · intro h
    cases h with
    | @blankName t given blank =>
      refine ⟨.nameBlank, ?_, rfl⟩
      rcases Rules.checkName_cases t with ⟨_, h⟩ | ⟨hlong, _⟩ | ⟨_, ⟨ch, hch, _⟩, _⟩ | ⟨hsome, _⟩
      · simp [given, h]
      · simp [blank] at hlong
      · simp [blank] at hch
      · exact absurd blank hsome
    | @longName t given long =>
      refine ⟨.nameTooLong, ?_, rfl⟩
      rcases Rules.checkName_cases t with ⟨hblank, _⟩ | ⟨_, h⟩ | ⟨hshort, _⟩ | ⟨_, hshort, _⟩
      · simp [hblank] at long
      · simp [given, h]
      · exact absurd long (Nat.not_lt.2 hshort)
      · exact absurd long (Nat.not_lt.2 hshort)
    | @controlInName t given short ch mem control =>
      refine ⟨.nameHasControl, ?_, rfl⟩
      rcases Rules.checkName_cases t with ⟨hblank, _⟩ | ⟨hlong, _⟩ | ⟨_, _, h⟩ | ⟨_, _, hnone, _⟩
      · simp [hblank] at mem
      · exact absurd hlong (Nat.not_lt.2 short)
      · simp [given, h]
      · rw [hnone ch mem] at control
        cases control
    | @description t given long =>
      have hfound := (Rules.checkLength_eq_some_iff Rules.descriptionLimit t _).2 ⟨long, rfl⟩
      exact ⟨.tooLong Rules.descriptionLimit, by simp [given, hfound], rfl⟩
    | @icon t given long =>
      have hfound := (Rules.checkLength_eq_some_iff Rules.iconLimit t _).2 ⟨long, rfl⟩
      exact ⟨.tooLong Rules.iconLimit, by simp [given, hfound], rfl⟩
    | @color t given long =>
      have hfound := (Rules.checkLength_eq_some_iff Rules.colorLimit t _).2 ⟨long, rfl⟩
      exact ⟨.tooLong Rules.colorLimit, by simp [given, hfound], rfl⟩
    | @state v given noObject =>
      have hfound := (Rules.checkState_eq_some_iff v _).2 ⟨noObject, rfl⟩
      exact ⟨.stateNoObject, by simp [given, hfound], rfl⟩
  · rintro ⟨b, hlook, rfl⟩
    simp only [List.mem_cons, List.not_mem_nil, or_false, Prod.mk.injEq] at hlook
    rcases hlook with ⟨rfl, h⟩ | ⟨rfl, h⟩ | ⟨rfl, h⟩ | ⟨rfl, h⟩ | ⟨rfl, h⟩
    all_goals obtain ⟨t, given, h⟩ := Option.bind_eq_some_iff.1 h.symm
    · rcases Rules.checkName_cases t with ⟨hblank, h'⟩ | ⟨hlong, h'⟩ |
        ⟨hshort, ⟨ch, hch, hcontrol⟩, h'⟩ | ⟨_, _, _, h'⟩
      all_goals rw [h] at h'
      · obtain rfl := Option.some.inj h'
        exact .blankName given hblank
      · obtain rfl := Option.some.inj h'
        exact .longName given hlong
      · obtain rfl := Option.some.inj h'
        exact .controlInName given hshort hch hcontrol
      · cases h'
    · obtain ⟨long, rfl⟩ := (Rules.checkLength_eq_some_iff _ _ _).1 h
      exact .description given long
    · obtain ⟨long, rfl⟩ := (Rules.checkLength_eq_some_iff _ _ _).1 h
      exact .icon given long
    · obtain ⟨long, rfl⟩ := (Rules.checkLength_eq_some_iff _ _ _).1 h
      exact .color given long
    · obtain ⟨noObject, rfl⟩ := (Rules.checkState_eq_some_iff _ _).1 h
      exact .state given noObject

/-- What has to come of a check: all is well if no value breaks its rule, and else those that do are
told, one by one, by ascending field. -/
inductive Verdict : Except Fault Unit → Prop
  | accepted (sound : ∀ field code, ¬ g.Breaks field code) : Verdict (.ok ())
  | refused {message : String} {details : List Detail} (some : details ≠ [])
      (told : ∀ d ∈ details, ∃ field, d.field = .some field ∧ g.Breaks field d.code)
      (all : ∀ field code, g.Breaks field code →
        ∃ d ∈ details, d.field = .some field ∧ d.code = code)
      (ascending : details.Pairwise fun d e =>
        ∃ field ∈ d.field, ∃ later ∈ e.field, field < later) :
      Verdict (.error (.validation message details))

/-- In whatever order the breaches are found, and in whichever words each is told. -/
theorem verdict_of_perm (found : List (String × Breach)) (tell : String → Breach → Detail)
    (hperm : found.Perm g.findings)
    (htell : ∀ field b, (tell field b).field = some field ∧ (tell field b).code = b.code) :
    g.Verdict (Rules.verdict ((Rules.byField found).map fun (field, b) => tell field b)) := by
  have hmem : ∀ field b, (field, b) ∈ Rules.byField found ↔ (field, b) ∈ g.findings := by
    intro field b
    rw [(Rules.byField_perm found).mem_iff, hperm.mem_iff]
  rcases Rules.verdict_cases ((Rules.byField found).map fun (field, b) => tell field b) with
    ⟨hnone, hverdict⟩ | ⟨hsome, message, hverdict⟩
  · rw [hverdict]
    refine .accepted fun field code hbreaks => ?_
    obtain ⟨b, hb, _⟩ := (g.breaks_iff field code).1 hbreaks
    rw [List.map_eq_nil_iff] at hnone
    rw [← hmem, hnone] at hb
    cases hb
  · rw [hverdict]
    refine .refused hsome ?_ ?_ ?_
    · intro d hd
      obtain ⟨⟨field, b⟩, hb, rfl⟩ := List.mem_map.1 hd
      obtain ⟨hfield, hcode⟩ := htell field b
      exact ⟨field, hfield, (g.breaks_iff field _).2 ⟨b, (hmem field b).1 hb, hcode.symm⟩⟩
    · intro field code hbreaks
      obtain ⟨b, hb, rfl⟩ := (g.breaks_iff field code).1 hbreaks
      exact ⟨_, List.mem_map.2 ⟨(field, b), (hmem field b).2 hb, rfl⟩, htell field b⟩
    · have honce : (found.map (·.1)).Nodup := (hperm.map (·.1)).nodup_iff.2 g.fields_nodup
      refine List.pairwise_map.2 ((Rules.byField_ascending honce).imp ?_)
      rintro ⟨field, b⟩ ⟨later, c⟩ hless
      exact ⟨field, (htell field b).1, later, (htell later c).1, hless⟩

/-- A check lets values through that break no rule, and tells of those that do. -/
theorem Verdict.cases {result : Except Fault Unit} (h : g.Verdict result) :
    ((∀ field code, ¬ g.Breaks field code) ∧ result = .ok ()) ∨
      (∃ field code, g.Breaks field code) ∧
        ∃ message details, details ≠ [] ∧ result = .error (.validation message details) := by
  cases h with
  | accepted sound => exact .inl ⟨sound, rfl⟩
  | @refused message details some told all ascending =>
    obtain ⟨d, hd⟩ := List.exists_mem_of_ne_nil details some
    obtain ⟨field, _, hbreaks⟩ := told d hd
    exact .inr ⟨⟨field, d.code, hbreaks⟩, message, details, some, rfl⟩

theorem Verdict.accepts {g : Given} {result : Except Fault Unit} (h : g.Verdict result)
    (hsound : ∀ field code, ¬ g.Breaks field code) : result = .ok () := by
  rcases h.cases with ⟨_, hresult⟩ | ⟨⟨field, code, hbreaks⟩, _⟩
  · exact hresult
  · exact absurd hbreaks (hsound field code)

theorem Verdict.refuses {g : Given} {result : Except Fault Unit} (h : g.Verdict result)
    {field code : String} (hbreaks : g.Breaks field code) :
    ∃ message details, result = .error (.validation message details) := by
  rcases h.cases with ⟨hsound, _⟩ | ⟨_, message, details, _, hresult⟩
  · exact absurd hbreaks (hsound field code)
  · exact ⟨message, details, hresult⟩

end Given

/-! ## Drafts and revisions -/

/-- The limits that stand twice are the same. -/
theorem Draft.findings_eq (d : Draft) : d.findings = d.given.findings := by
  simp only [findings, given, Given.findings, Option.bind_some, Rules.descriptionLimit,
    Rules.iconLimit, Rules.colorLimit]

theorem Revision.findings_eq (r : Revision) : r.findings = r.given.findings := rfl

theorem Rules.byField_eq_nil_iff (found : List (String × Breach)) :
    byField found = [] ↔ found = [] := by
  constructor
  · intro h
    exact List.nil_perm.1 (h ▸ byField_perm found)
  · rintro rfl
    rfl

theorem Draft.check_eq_ok_iff (d : Draft) : d.check = .ok () ↔ d.given.findings = [] := by
  unfold Draft.check
  rw [Rules.verdict_eq_ok_iff, List.map_eq_nil_iff, Draft.breaches, Rules.byField_eq_nil_iff,
    d.findings_eq]

theorem Revision.check_eq_ok_iff (r : Revision) : r.check = .ok () ↔ r.given.findings = [] := by
  unfold Revision.check
  rw [Rules.verdict_eq_ok_iff, List.map_eq_nil_iff, Revision.breaches, Rules.byField_eq_nil_iff,
    r.findings_eq]

theorem Breach.told_detail (field : String) (b : Breach) :
    (b.detail field).field = some field ∧ (b.detail field).code = b.code := ⟨rfl, rfl⟩

theorem Breach.told_briefDetail (field : String) (b : Breach) :
    (b.briefDetail field).field = some field ∧ (b.briefDetail field).code = b.code := by
  cases b <;> exact ⟨rfl, rfl⟩

theorem Draft.verdict_check (d : Draft) : d.given.Verdict d.check := by
  unfold Draft.check Draft.breaches
  rw [d.findings_eq]
  exact d.given.verdict_of_perm d.given.findings (fun field b => b.briefDetail field) (.refl _)
    Breach.told_briefDetail

theorem Revision.verdict_check (r : Revision) : r.given.Verdict r.check := by
  unfold Revision.check Revision.breaches
  rw [r.findings_eq]
  exact r.given.verdict_of_perm r.given.findings (fun field b => b.detail field) (.refl _)
    Breach.told_detail

/-- A draft and a revision that give the same values are let through or refused alike. What comes of
either check is decided by the given values that break their rules, each of which is told once, by
ascending field, and in whatever order the breaches are found, the same comes of it. -/
theorem drafts_and_revisions_keep_one_set_of_rules :
    (∀ (d : Draft) (r : Revision), r.given = d.given → (r.check = .ok () ↔ d.check = .ok ())) ∧
    (∀ d : Draft, d.given.Verdict d.check ∧ ∀ found, found.Perm d.findings →
      Rules.verdict ((Rules.byField found).map fun (field, b) => b.briefDetail field) = d.check) ∧
    ∀ r : Revision, r.given.Verdict r.check ∧ ∀ found, found.Perm r.findings →
      Rules.verdict ((Rules.byField found).map fun (field, b) => b.detail field) = r.check := by
  refine ⟨fun d r hgiven => ?_, fun d => ⟨d.verdict_check, fun found hperm => ?_⟩,
    fun r => ⟨r.verdict_check, fun found hperm => ?_⟩⟩
  · rw [r.check_eq_ok_iff, d.check_eq_ok_iff, hgiven]
  · unfold Draft.check Draft.breaches
    rw [d.findings_eq] at hperm ⊢
    rw [Rules.byField_of_perm hperm d.given.fields_nodup]
  · unfold Revision.check Revision.breaches
    rw [r.findings_eq] at hperm ⊢
    rw [Rules.byField_of_perm hperm r.given.fields_nodup]

/-- A name with a bell in it, a color that is one character too long, and a list for a state. -/
def Sample.faultyDraft : Draft :=
  ⟨"a\u0007", none, some "rocket", some (String.ofList (List.replicate 51 'x')), some (.array [])⟩

/-- The same values, and a description that is cleared. -/
def Sample.faultyRevision : Revision :=
  ⟨some "a\u0007", .clear, .write "rocket", .write (String.ofList (List.replicate 51 'x')),
    some (.array [])⟩

theorem three_of_four_values_are_refused_in_both :
    Sample.faultyRevision.given = Sample.faultyDraft.given ∧
      (Sample.faultyRevision.check = .ok () ↔ Sample.faultyDraft.check = .ok ()) ∧
      Sample.faultyDraft.breaches.map (fun (field, b) => (field, b.code)) =
        [("color", "too_long"), ("name", "invalid_characters"), ("state", "invalid_state")] ∧
      Rules.verdict ((Rules.byField Sample.faultyRevision.findings.reverse).map
        fun (field, b) => b.detail field) = Sample.faultyRevision.check := by
  obtain ⟨halike, _, hrevision⟩ := drafts_and_revisions_keep_one_set_of_rules
  have hgiven : Sample.faultyRevision.given = Sample.faultyDraft.given := by decide +kernel
  refine ⟨hgiven, halike Sample.faultyDraft Sample.faultyRevision hgiven, by decide +kernel, ?_⟩
  exact (hrevision Sample.faultyRevision).2 _ (List.reverse_perm _)

end Workspaces
