-- Loading settings: which pairs of key and value give settings, and what settings those are. It does
-- not matter how the pairs are ordered, nor what stands under keys that name no setting.
import Workspaces.Proofs.Config.Startup

namespace Workspaces.Config

/-! ## What there is to set -/

/-- The pieces of a value between its commas, as they stand. An empty value has none. -/
structure PiecesOf (value : String) (pieces : List String) : Prop where
  parted : ∀ piece ∈ pieces, ',' ∉ piece.toList
  joined : ",".intercalate pieces = value
  notBlank : pieces ≠ [""]

/-- One of the settings: its name, what a value tells of it, what it is where no value is given, and
where it is kept. -/
structure Slot where
  Content : Type
  name : String
  tells : String → Content → Prop
  preset : Content
  field : Config → Content

/-- The settings that there are. A number is one of 16, 32 or 64 bits. -/
def slots : List Slot := [
  ⟨String, "server_host", (· = ·), "127.0.0.1", (·.host)⟩,
  ⟨UInt16, "server_port", fun v n => Numeral.Tells v.toList n.toNat, 8000, (·.port)⟩,
  ⟨List String, "cors_origins", PiecesOf, ["http://localhost:3000"], (·.corsOrigins)⟩,
  ⟨String, "log_level", (· = ·), "info", (·.logLevel)⟩,
  ⟨String, "log_format", (· = ·), "json", (·.logFormat)⟩,
  ⟨Option String, "database_url", fun v url => some v = url, none, (·.databaseUrl)⟩,
  ⟨UInt32, "database_max_connections", fun v n => Numeral.Tells v.toList n.toNat, 20,
    (·.maxConnections)⟩,
  ⟨UInt32, "database_min_connections", fun v n => Numeral.Tells v.toList n.toNat, 5,
    (·.minConnections)⟩,
  ⟨UInt64, "database_connection_timeout", fun v n => Numeral.Tells v.toList n.toNat, 30,
    (·.connectionTimeout)⟩,
  ⟨Bool, "docs_enabled", fun v b => v = toString b, true, (·.docsEnabled)⟩]

/-- What a setting is after pairs: what the pair of its name tells, in letters of either case, or what
it is without one. -/
structure Slot.Holds (s : Slot) (pairs : List (String × String)) (x : s.Content) : Prop where
  told : ∀ pair ∈ pairs, lowerKey pair.1 = s.name → s.tells pair.2 x
  untold : (∀ pair ∈ pairs, lowerKey pair.1 ≠ s.name) → x = s.preset

/-- The settings are those that the pairs give. -/
def GivenBy (c : Config) (pairs : List (String × String)) : Prop :=
  ∀ s ∈ slots, s.Holds pairs (s.field c)

/-- The value tells something of the setting that the key names, if the key names one. -/
def Legible (pair : String × String) : Prop :=
  ∀ s ∈ slots, lowerKey pair.1 = s.name → ∃ x, s.tells pair.2 x

/-- The name of each setting that a pair gives, as often as it is given. -/
def givenNames (pairs : List (String × String)) : List String :=
  (pairs.map fun pair => lowerKey pair.1).filter (· ∈ slots.map (·.name))

/-- Settings that the server can run with. -/
structure Sound (c : Config) : Prop where
  connections : 1 ≤ c.maxConnections
  idle : c.minConnections ≤ c.maxConnections
  format : c.logFormat = "json" ∨ c.logFormat = "pretty"
  origins : ∀ origin ∈ c.corsOrigins, origin = "*" ∨ isHeaderText origin = true

/-! ## Values -/

theorem comma_not_mem_splitOn (cs : List Char) : ∀ piece ∈ cs.splitOn ',', ',' ∉ piece := by
  induction cs with
  | nil => simp [List.splitOn_nil]
  | cons c cs ih =>
    rw [List.splitOn_cons_eq_if_modifyHead]
    by_cases hc : c = ','
    · simpa [hc] using ih
    · rw [if_neg (by simpa using hc)]
      cases hsplit : cs.splitOn ',' with
      | nil => simp
      | cons first rest =>
        rw [hsplit, List.forall_mem_cons] at ih
        rw [List.modifyHead_cons, List.forall_mem_cons, List.mem_cons, not_or]
        exact ⟨⟨Ne.symm hc, ih.1⟩, ih.2⟩

theorem toList_joined (pieces : List String) :
    (",".intercalate pieces).toList = [','].intercalate (pieces.map String.toList) :=
  String.toList_intercalate

theorem piecesOf_readList (value : String) : PiecesOf value (readList value) := by
  unfold readList
  split
  · rename_i hempty
    subst hempty
    exact ⟨by simp, String.intercalate_nil, by simp⟩
  · rename_i hvalue
    have hchars : ((value.toList.splitOn ',').map String.ofList).map String.toList =
        value.toList.splitOn ',' := by
      simp [List.map_map, Function.comp_def]
    refine ⟨?_, ?_, ?_⟩
    · intro piece hpiece
      obtain ⟨cs, hcs, rfl⟩ := List.mem_map.1 hpiece
      rw [String.toList_ofList]
      exact comma_not_mem_splitOn _ cs hcs
    · apply String.toList_inj.1
      rw [toList_joined, hchars, List.intercalate_splitOn]
    · intro hblank
      rw [hblank] at hchars
      have hjoin : [','].intercalate (value.toList.splitOn ',') = value.toList :=
        List.intercalate_splitOn ','
      rw [← hchars] at hjoin
      exact hvalue (String.toList_inj.1 hjoin.symm)

theorem PiecesOf.readList {value : String} {pieces : List String} (h : PiecesOf value pieces) :
    readList value = pieces := by
  obtain ⟨hparted, rfl, hblank⟩ := h
  unfold Config.readList
  cases pieces with
  | nil => rw [String.intercalate_nil, if_pos rfl]
  | cons first rest =>
    have hsplit : (",".intercalate (first :: rest)).toList.splitOn ',' =
        (first :: rest).map String.toList := by
      rw [toList_joined]
      exact List.splitOn_intercalate ',' (by simpa using hparted) (by simp)
    split
    · rename_i hempty
      rw [hempty, String.toList_empty, List.splitOn_nil, List.map_cons] at hsplit
      obtain ⟨hfirst, hrest⟩ := List.cons.inj hsplit
      have hfirst' : first = "" := String.toList_inj.1 hfirst.symm
      rw [hfirst', List.map_eq_nil_iff.1 hrest.symm] at hblank
      exact absurd rfl hblank
    · rw [hsplit]
      simp [List.map_map, Function.comp_def]

theorem readList_eq_iff (value : String) (pieces : List String) :
    readList value = pieces ↔ PiecesOf value pieces := by
  constructor
  · rintro rfl
    exact piecesOf_readList value
  · exact PiecesOf.readList

theorem readBool_eq_ok_iff (value : String) (b : Bool) :
    readBool value = .ok b ↔ value = toString b := by
  unfold readBool
  by_cases htrue : value = "true"
  · subst htrue
    cases b <;> decide
  · rw [if_neg htrue]
    by_cases hfalse : value = "false"
    · subst hfalse
      cases b <;> decide
    · rw [if_neg hfalse]
      cases b
      · exact iff_of_false (by simp) hfalse
      · exact iff_of_false (by simp) htrue

/-- A word is read as the number that a value tells. -/
theorem readWord_eq_ok_iff {α : Type} {bits : Nat} {ofNat : Nat → α} {toNat : α → Nat}
    (hlossless : ∀ n < 2 ^ bits, toNat (ofNat n) = n) (hback : ∀ x, ofNat (toNat x) = x)
    (hlt : ∀ x, toNat x < 2 ^ bits) (value : String) (x : α) :
    (readUnsigned bits value).map ofNat = .ok x ↔ Numeral.Tells value.toList (toNat x) := by
  constructor
  · intro h
    obtain ⟨n, hread, rfl⟩ := ok_of_map h
    obtain ⟨htells, hroom⟩ := readUnsigned_eq_ok_iff.1 hread
    rwa [hlossless n hroom]
  · intro h
    rw [readUnsigned_eq_ok_iff.2 ⟨h, hlt x⟩]
    exact congrArg Except.ok (hback x)

/-! ## Slots -/

/-- Each setting is filled with what its value tells. -/
theorem filled {s : Slot} (hs : s ∈ slots) :
    ∃ read, Fills s.name read s.field ∧ ∀ v x, read v = .ok x ↔ s.tells v x := by
  simp only [slots, List.mem_cons, List.not_mem_nil, or_false] at hs
  rcases hs with rfl | rfl | rfl | rfl | rfl | rfl | rfl | rfl | rfl | rfl
  · exact ⟨_, fills_host, fun v x => by rw [Except.ok.injEq]⟩
  · exact ⟨_, fills_port, readWord_eq_ok_iff (fun _ => UInt16.toNat_ofNat_of_lt')
      (fun _ => UInt16.ofNat_toNat) UInt16.toNat_lt⟩
  · exact ⟨_, fills_corsOrigins, fun v x => by rw [Except.ok.injEq, readList_eq_iff]⟩
  · exact ⟨_, fills_logLevel, fun v x => by rw [Except.ok.injEq]⟩
  · exact ⟨_, fills_logFormat, fun v x => by rw [Except.ok.injEq]⟩
  · exact ⟨_, fills_databaseUrl, fun v x => by rw [Except.ok.injEq]⟩
  · exact ⟨_, fills_maxConnections, readWord_eq_ok_iff (fun _ => UInt32.toNat_ofNat_of_lt')
      (fun _ => UInt32.ofNat_toNat) UInt32.toNat_lt⟩
  · exact ⟨_, fills_minConnections, readWord_eq_ok_iff (fun _ => UInt32.toNat_ofNat_of_lt')
      (fun _ => UInt32.ofNat_toNat) UInt32.toNat_lt⟩
  · exact ⟨_, fills_connectionTimeout, readWord_eq_ok_iff (fun _ => UInt64.toNat_ofNat_of_lt')
      (fun _ => UInt64.ofNat_toNat) UInt64.toNat_lt⟩
  · exact ⟨_, fills_docsEnabled, readBool_eq_ok_iff⟩

theorem preset_eq {s : Slot} (hs : s ∈ slots) : s.field default = s.preset := by
  simp only [slots, List.mem_cons, List.not_mem_nil, or_false] at hs
  rcases hs with rfl | rfl | rfl | rfl | rfl | rfl | rfl | rfl | rfl | rfl <;> rfl

/-- Settings are told by what stands in their slots. -/
theorem ext_slots {c c' : Config} (h : ∀ s ∈ slots, s.field c = s.field c') : c = c' := by
  simp only [slots, List.forall_mem_cons] at h
  cases c
  cases c'
  simp_all

theorem names_eq : slots.map (·.name) = settings.map (·.name) := rfl

theorem slot_ext {s t : Slot} (hs : s ∈ slots) (ht : t ∈ slots) (h : s.name = t.name) : s = t :=
  List.inj_on_of_nodup_map (names_eq ▸ names_nodup) hs ht h

theorem setting?_eq_none_iff (key : String) :
    setting? key = none ↔ lowerKey key ∉ slots.map (·.name) := by
  unfold setting?
  rw [names_eq, List.find?_eq_none, List.mem_map]
  simp

/-- A value is taken for a setting if it tells something of it. -/
theorem exists_set_iff {s : Setting} (hs : s ∈ settings) {slot : Slot} (hslot : slot ∈ slots)
    (hname : s.name = slot.name) (value : String) (c : Config) :
    (∃ c', s.set value c = .ok c') ↔ ∃ x, slot.tells value x := by
  obtain ⟨read, hf, hread⟩ := filled hslot
  obtain ⟨t, ht, htname, hset⟩ := hf.own
  obtain rfl := setting_ext hs ht (hname.trans htname.symm)
  simp only [← hread, ← hset value c]
  cases s.set value c with
  | error reason => exact iff_of_false (by simp) (by simp [Except.map])
  | ok c' => exact iff_of_true ⟨c', rfl⟩ ⟨slot.field c', rfl⟩

theorem legible_of_unknown {key value : String} (h : setting? key = none) :
    Legible (key, value) := by
  intro slot hslot hname
  exact absurd (List.mem_map.2 ⟨slot, hslot, hname.symm⟩) ((setting?_eq_none_iff key).1 h)

theorem legible_iff {key value : String} {s : Setting} (h : setting? key = some s) (c : Config) :
    Legible (key, value) ↔ ∃ c', s.set value c = .ok c' := by
  obtain ⟨hs, hname⟩ := name_of_setting? h
  constructor
  · intro hlegible
    obtain ⟨slot, hslot, hslotName⟩ : ∃ slot ∈ slots, slot.name = s.name :=
      List.mem_map.1 (names_eq ▸ List.mem_map_of_mem hs)
    rw [exists_set_iff hs hslot hslotName.symm]
    exact hlegible slot hslot (hname.symm.trans hslotName.symm)
  · intro hset slot hslot hslotName
    exact (exists_set_iff hs hslot (hname.trans hslotName) value c).1 hset

/-! ## Which pairs are taken -/

theorem givenNames_of_unknown {key : String} (value : String) (pairs : List (String × String))
    (h : setting? key = none) : givenNames ((key, value) :: pairs) = givenNames pairs := by
  have hkey := (setting?_eq_none_iff key).1 h
  unfold givenNames
  rw [List.map_cons, List.filter_cons_of_neg (by simpa using hkey)]

theorem givenNames_of_known {key : String} {s : Setting} (value : String)
    (pairs : List (String × String)) (h : setting? key = some s) :
    givenNames ((key, value) :: pairs) = s.name :: givenNames pairs := by
  obtain ⟨hs, hname⟩ := name_of_setting? h
  have hkey : lowerKey key ∈ slots.map (·.name) := by
    rw [names_eq, ← hname]
    exact List.mem_map_of_mem hs
  unfold givenNames
  rw [List.map_cons, List.filter_cons_of_pos (by simpa using hkey), hname]

/-- Pairs are taken if they give no setting twice, nor one that was given before, and each value
tells something of its setting. -/
theorem exists_takePairs_iff (given : List String) (c : Config) (pairs : List (String × String)) :
    (∃ c', takePairs given c pairs = .ok c') ↔
      (givenNames pairs).Nodup ∧ (∀ name ∈ givenNames pairs, name ∉ given) ∧
        ∀ pair ∈ pairs, Legible pair := by
  fun_induction takePairs given c pairs with
  | case1 given c =>
    exact iff_of_true ⟨c, rfl⟩ ⟨List.nodup_nil, by simp [givenNames], by simp⟩
  | case2 given c key value pairs hkey ih =>
    rw [ih, givenNames_of_unknown value pairs hkey, List.forall_mem_cons]
    simp only [legible_of_unknown hkey, true_and]
  | case3 given c key value pairs s hkey hrepeated =>
    rw [givenNames_of_known value pairs hkey]
    refine iff_of_false (by simp) fun h => ?_
    exact h.2.1 s.name List.mem_cons_self (List.contains_iff_mem.1 hrepeated)
  | case4 given c key value pairs s hkey _ reason hset =>
    refine iff_of_false (by simp) fun h => ?_
    obtain ⟨c', hc'⟩ := (legible_iff hkey c).1 (h.2.2 (key, value) List.mem_cons_self)
    rw [hset] at hc'
    cases hc'
  | case5 given c key value pairs s hkey hnew c' hset ih =>
    have hfresh : s.name ∉ given := by simpa using hnew
    have hlegible : Legible (key, value) := (legible_iff hkey c).2 ⟨c', hset⟩
    rw [ih, givenNames_of_known value pairs hkey, List.nodup_cons, List.forall_mem_cons,
      List.forall_mem_cons]
    constructor
    · rintro ⟨hnodup, hothers, hmore⟩
      refine ⟨⟨fun hmem => ?_, hnodup⟩, ⟨hfresh, fun name hname => ?_⟩, hlegible, hmore⟩
      · exact hothers _ hmem List.mem_cons_self
      · exact fun hgiven => hothers name hname (List.mem_cons_of_mem _ hgiven)
    · rintro ⟨⟨honce, hnodup⟩, ⟨_, hothers⟩, _, hmore⟩
      refine ⟨hnodup, fun name hname => ?_, hmore⟩
      rw [List.mem_cons, not_or]
      exact ⟨fun heq => honce (heq ▸ hname), hothers name hname⟩

theorem exists_takePairs_default_iff (pairs : List (String × String)) :
    (∃ c, takePairs [] default pairs = .ok c) ↔
      (givenNames pairs).Nodup ∧ ∀ pair ∈ pairs, Legible pair := by
  rw [exists_takePairs_iff]
  simp

/-! ## What the pairs give -/

theorem mem_givenNames_iff {s : Slot} (hs : s ∈ slots) (pairs : List (String × String)) :
    s.name ∈ givenNames pairs ↔ ∃ pair ∈ pairs, lowerKey pair.1 = s.name := by
  have hname : s.name ∈ slots.map (·.name) := List.mem_map_of_mem hs
  unfold givenNames
  rw [List.mem_filter, List.mem_map]
  exact and_iff_left (by simpa using hname)

theorem givenNames_sublist {pairs pairs' : List (String × String)} (h : pairs.Sublist pairs') :
    (givenNames pairs).Sublist (givenNames pairs') := (h.map _).filter _

theorem givenNames_append (pairs pairs' : List (String × String)) :
    givenNames (pairs ++ pairs') = givenNames pairs ++ givenNames pairs' := by
  unfold givenNames
  rw [List.map_append, List.filter_append]

theorem givenNames_perm {pairs pairs' : List (String × String)} (h : pairs.Perm pairs') :
    (givenNames pairs).Perm (givenNames pairs') := (h.map _).filter _

theorem told?_eq_none_iff (pairs : List (String × String)) (name : String) :
    told? pairs name = none ↔ ∀ pair ∈ pairs, lowerKey pair.1 ≠ name := by
  unfold told?
  simp

/-- Of a setting that is given once, the pair of its name tells. -/
theorem told?_of_mem {pairs : List (String × String)} (hnodup : (givenNames pairs).Nodup)
    {s : Slot} (hs : s ∈ slots) {pair : String × String} (hpair : pair ∈ pairs)
    (hname : lowerKey pair.1 = s.name) : told? pairs s.name = some pair.2 := by
  induction pairs with
  | nil => cases hpair
  | cons first rest ih =>
    rcases List.mem_cons.1 hpair with rfl | hrest
    · exact told?_cons_of_eq rest hname
    · have hgiven : s.name ∈ givenNames rest := (mem_givenNames_iff hs rest).2 ⟨pair, hrest, hname⟩
      have hfirst : lowerKey first.1 ≠ s.name := by
        intro heq
        have hagain : s.name ∈ givenNames [first] :=
          (mem_givenNames_iff hs _).2 ⟨first, List.mem_cons_self, heq⟩
        rw [← List.singleton_append, givenNames_append, List.nodup_append] at hnodup
        exact hnodup.2.2 _ hagain _ hgiven rfl
      rw [told?_cons_of_ne rest hfirst]
      exact ih (hnodup.sublist (givenNames_sublist (List.sublist_cons_self first rest))) hrest

/-- Settings that pairs are taken into hold what the pairs give. -/
theorem givenBy_of_takePairs {pairs : List (String × String)} {c : Config}
    (h : takePairs [] default pairs = .ok c) : c.GivenBy pairs := by
  intro s hs
  obtain ⟨read, hf, hread⟩ := filled hs
  have hnodup := ((exists_takePairs_default_iff pairs).1 ⟨c, h⟩).1
  have hfield := (hf.takePairs [] default c pairs h).2 List.not_mem_nil
  constructor
  · intro pair hpair hname
    rw [told?_of_mem hnodup hs hpair hname] at hfield
    exact (hread _ _).1 hfield
  · intro huntold
    rw [(told?_eq_none_iff pairs s.name).2 huntold] at hfield
    exact hfield.trans (preset_eq hs)

/-- Pairs give one thing of each setting. -/
theorem Slot.Holds.unique {s : Slot} (hs : s ∈ slots) {pairs : List (String × String)}
    {x y : s.Content} (hx : s.Holds pairs x) (hy : s.Holds pairs y) : x = y := by
  obtain ⟨read, _, hread⟩ := filled hs
  by_cases htold : ∃ pair ∈ pairs, lowerKey pair.1 = s.name
  · obtain ⟨pair, hpair, hname⟩ := htold
    have hsame : Except.ok x = Except.ok y :=
      ((hread _ _).2 (hx.told pair hpair hname)).symm.trans
        ((hread _ _).2 (hy.told pair hpair hname))
    exact Except.ok.inj hsame
  · have huntold : ∀ pair ∈ pairs, lowerKey pair.1 ≠ s.name :=
      fun pair hpair hname => htold ⟨pair, hpair, hname⟩
    rw [hx.untold huntold, hy.untold huntold]

theorem GivenBy.unique {pairs : List (String × String)} {c c' : Config} (h : c.GivenBy pairs)
    (h' : c'.GivenBy pairs) : c = c' :=
  ext_slots fun s hs => (h s hs).unique hs (h' s hs)

/-- Where settings hold what the pairs give, each value tells something. -/
theorem GivenBy.legible {pairs : List (String × String)} {c : Config} (h : c.GivenBy pairs) :
    ∀ pair ∈ pairs, Legible pair :=
  fun pair hpair s hs hname => ⟨s.field c, (h s hs).told pair hpair hname⟩

/-- The order of the pairs does not matter. -/
theorem GivenBy.of_perm {pairs pairs' : List (String × String)} {c : Config}
    (h : c.GivenBy pairs) (hperm : pairs.Perm pairs') : c.GivenBy pairs' := by
  intro s hs
  constructor
  · exact fun pair hpair => (h s hs).told pair (hperm.mem_iff.2 hpair)
  · exact fun huntold => (h s hs).untold fun pair hpair => huntold pair (hperm.mem_iff.1 hpair)

/-! ## Loading -/

theorem Sound.of_check {c : Config} (h : c.check = .ok ()) : c.Sound := by
  obtain ⟨hsome, hidle⟩ := sizes_of_check h
  refine ⟨?_, UInt32.not_lt.1 hidle, ?_, origins_of_check h⟩
  · have hpos : c.maxConnections.toNat ≠ 0 := fun hzero => hsome (UInt32.toNat_inj.1 hzero)
    exact UInt32.le_iff_toNat_le.2 (Nat.pos_of_ne_zero hpos)
  · by_contra hformat
    rw [not_or] at hformat
    unfold check at h
    rw [if_neg hsome, if_neg hidle, if_pos hformat] at h
    cases h

theorem Sound.check {c : Config} (h : c.Sound) : c.check = .ok () := by
  have hsome : c.maxConnections ≠ 0 := by
    intro hzero
    have hpos := h.connections
    rw [hzero] at hpos
    exact absurd hpos (by decide)
  have horigins : c.corsOrigins.find? (fun o => o ≠ "*" && !isHeaderText o) = none := by
    refine List.find?_eq_none.2 fun origin horigin => ?_
    rcases h.origins origin horigin with rfl | hgood
    · simp
    · simp [hgood]
  unfold Config.check
  rw [if_neg hsome, if_neg (UInt32.not_lt.2 h.idle), if_neg (not_and_or.2 ?_), horigins]
  simpa using h.format

/-- Settings are loaded if pairs give none twice, if they are what the pairs give and if the server
can run with them. -/
theorem ofPairs_eq_ok_iff (pairs : List (String × String)) (c : Config) :
    ofPairs pairs = .ok c ↔ (givenNames pairs).Nodup ∧ c.GivenBy pairs ∧ c.Sound := by
  constructor
  · intro h
    obtain ⟨hread, hcheck⟩ := ok_of_ofPairs h
    exact ⟨((exists_takePairs_default_iff pairs).1 ⟨c, hread⟩).1, givenBy_of_takePairs hread,
      .of_check hcheck⟩
  · rintro ⟨hnodup, hgiven, hsound⟩
    obtain ⟨c', hread⟩ := (exists_takePairs_default_iff pairs).2 ⟨hnodup, hgiven.legible⟩
    obtain rfl := hgiven.unique (givenBy_of_takePairs hread)
    unfold ofPairs
    simp only [hread, hsound.check]
    rfl

theorem ofPairs_of_perm {pairs pairs' : List (String × String)} {c : Config}
    (h : pairs.Perm pairs') (hload : ofPairs pairs = .ok c) : ofPairs pairs' = .ok c := by
  obtain ⟨hnodup, hgiven, hsound⟩ := (ofPairs_eq_ok_iff pairs c).1 hload
  exact (ofPairs_eq_ok_iff pairs' c).2
    ⟨(givenNames_perm h).nodup_iff.1 hnodup, hgiven.of_perm h, hsound⟩

/-- What stands under keys that name no setting makes no difference. -/
theorem takePairs_filter_known (given : List String) (c : Config) (pairs : List (String × String)) :
    takePairs given c (pairs.filter fun pair => lowerKey pair.1 ∈ slots.map (·.name)) =
      takePairs given c pairs := by
  induction pairs generalizing given c with
  | nil => rfl
  | cons pair rest ih =>
    obtain ⟨key, value⟩ := pair
    by_cases hkey : lowerKey key ∈ slots.map (·.name)
    · rw [List.filter_cons_of_pos (by simpa using hkey), takePairs, takePairs]
      simp only [ih]
    · rw [List.filter_cons_of_neg (by simpa using hkey), ih, takePairs]
      simp only [(setting?_eq_none_iff key).2 hkey]

/-- Pairs of key and value give settings exactly if no setting is given twice, if each value that is
given for one tells something of it, and if the server can run with what they come to. The settings
are then what the pairs give, and are preset where they give nothing. Other keys make no difference,
and neither does the order. -/
theorem settings_are_what_the_pairs_give_in_any_order (pairs : List (String × String)) :
    ((∃ c, ofPairs pairs = .ok c) ↔
      (givenNames pairs).Nodup ∧ (∀ pair ∈ pairs, Legible pair) ∧
        ∀ c : Config, c.GivenBy pairs → c.Sound) ∧
    (∀ c, ofPairs pairs = .ok c → c.GivenBy pairs) ∧
    ofPairs (pairs.filter fun pair => lowerKey pair.1 ∈ slots.map (·.name)) = ofPairs pairs ∧
    ∀ pairs', pairs.Perm pairs' → (ofPairs pairs').toOption = (ofPairs pairs).toOption := by
  refine ⟨⟨?_, ?_⟩, ?_, ?_, ?_⟩
  · rintro ⟨c, h⟩
    obtain ⟨hnodup, hgiven, hsound⟩ := (ofPairs_eq_ok_iff pairs c).1 h
    exact ⟨hnodup, hgiven.legible, fun c' hgiven' => hgiven.unique hgiven' ▸ hsound⟩
  · rintro ⟨hnodup, hlegible, hsound⟩
    obtain ⟨c, hread⟩ := (exists_takePairs_default_iff pairs).2 ⟨hnodup, hlegible⟩
    have hgiven := givenBy_of_takePairs hread
    exact ⟨c, (ofPairs_eq_ok_iff pairs c).2 ⟨hnodup, hgiven, hsound c hgiven⟩⟩
  · exact fun c h => ((ofPairs_eq_ok_iff pairs c).1 h).2.1
  · unfold ofPairs
    rw [takePairs_filter_known]
  · intro pairs' hperm
    apply Option.ext
    intro c
    constructor
    · intro h
      rw [ofPairs_of_perm hperm.symm (ok_of_toOption h)]
      rfl
    · intro h
      rw [ofPairs_of_perm hperm (ok_of_toOption h)]
      rfl

/-- Settings in letters of both cases among keys of other programs, of which one stands twice. -/
def Sample.mixed : List (String × String) :=
  [("PATH", "/bin"), ("Server_Port", "+09100"), ("path", "/sbin"),
    ("CORS_ORIGINS", "http://a.test,*"), ("docs_ENABLED", "false")]

/-- The settings that come of them. -/
def Sample.mixedConfig : Config :=
  { default with port := 9100, corsOrigins := ["http://a.test", "*"], docsEnabled := false }

theorem settings_of_both_cases_are_found_in_any_order :
    ofPairs Sample.mixed = .ok Sample.mixedConfig ∧ Sample.mixedConfig.GivenBy Sample.mixed ∧
    Sample.mixed.Perm Sample.mixed.reverse ∧
    (ofPairs Sample.mixed.reverse).toOption = some Sample.mixedConfig := by
  have hload : ofPairs Sample.mixed = .ok Sample.mixedConfig := by decide +kernel
  have hperm : Sample.mixed.Perm Sample.mixed.reverse := Sample.mixed.reverse_perm.symm
  obtain ⟨_, hgiven, _, hsame⟩ := settings_are_what_the_pairs_give_in_any_order Sample.mixed
  refine ⟨hload, hgiven _ hload, hperm, ?_⟩
  rw [hsame _ hperm, hload]
  rfl

end Workspaces.Config
