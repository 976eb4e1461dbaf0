-- Settings by name: what pairs of key and value tell of a setting is what its field holds.
import Mathlib.Algebra.Group.Nat.Defs
import Mathlib.Data.List.Nodup
import Workspaces.Config.Basic
import Workspaces.Proofs.Except
import Workspaces.Proofs.Text.Numeral

namespace Workspaces.Config

/-! ## What pairs tell -/

/-- The value that pairs give to a setting, whose name is in letters of either case. -/
def told? (pairs : List (String × String)) (name : String) : Option String :=
  (pairs.find? fun pair => lowerKey pair.1 = name).map (·.2)

/-- The number that pairs give to a setting, or the preset one where they give it nothing. -/
def toldNumber? (bits : Nat) (pairs : List (String × String)) (name : String) (preset : Nat) :
    Option Nat :=
  match told? pairs name with
  | none => some preset
  | some value => (readUnsigned bits value).toOption

/-- The address of a database that pairs give. A blank one counts as none. -/
def toldAddress? (pairs : List (String × String)) : Option String :=
  ((told? pairs "database_url").map Text.trim).filter (· ≠ "")

/-- The origins that pairs give: the pieces of the value between its commas, as they stand. -/
def toldOrigins (pairs : List (String × String)) : List String :=
  match told? pairs "cors_origins" with
  | none => default.corsOrigins
  | some value => readList value

theorem told?_cons_of_eq {key value name : String} (pairs : List (String × String))
    (h : lowerKey key = name) : told? ((key, value) :: pairs) name = some value := by
  simp [told?, h]

theorem told?_cons_of_ne {key value name : String} (pairs : List (String × String))
    (h : lowerKey key ≠ name) : told? ((key, value) :: pairs) name = told? pairs name := by
  simp [told?, h]

/-! ## Settings -/

theorem names_nodup : (settings.map (·.name)).Nodup := by decide

theorem setting_ext {s t : Setting} (hs : s ∈ settings) (ht : t ∈ settings)
    (h : s.name = t.name) : s = t :=
  List.inj_on_of_nodup_map names_nodup hs ht h

theorem name_of_setting? {key : String} {s : Setting} (h : setting? key = some s) :
    s ∈ settings ∧ s.name = lowerKey key :=
  ⟨List.mem_of_find?_eq_some h, by simpa using List.find?_some h⟩

theorem name_ne_of_setting? {key : String} {s : Setting} (h : setting? key = none)
    (hs : s ∈ settings) : lowerKey key ≠ s.name := by
  have hne := List.find?_eq_none.1 h s hs
  exact fun heq => hne (decide_eq_true heq.symm)

/-- What a setting of each name can do: it writes its own field, and no other. -/
inductive Writes (c : Config) : String → Config → Prop where
  | host (x : String) : Writes c "server_host" { c with host := x }
  | port (x : UInt16) : Writes c "server_port" { c with port := x }
  | corsOrigins (x : List String) : Writes c "cors_origins" { c with corsOrigins := x }
  | logLevel (x : String) : Writes c "log_level" { c with logLevel := x }
  | logFormat (x : String) : Writes c "log_format" { c with logFormat := x }
  | databaseUrl (x : Option String) : Writes c "database_url" { c with databaseUrl := x }
  | maxConnections (x : UInt32) :
    Writes c "database_max_connections" { c with maxConnections := x }
  | minConnections (x : UInt32) :
    Writes c "database_min_connections" { c with minConnections := x }
  | connectionTimeout (x : UInt64) :
    Writes c "database_connection_timeout" { c with connectionTimeout := x }
  | docsEnabled (x : Bool) : Writes c "docs_enabled" { c with docsEnabled := x }

theorem writes_of_set {s : Setting} (hs : s ∈ settings) {value : String} {c c' : Config}
    (h : s.set value c = .ok c') : Writes c s.name c' := by
  simp only [settings, List.mem_cons, List.not_mem_nil, or_false] at hs
  rcases hs with rfl | rfl | rfl | rfl | rfl | rfl | rfl | rfl | rfl | rfl
  case inl | inr.inr.inl | inr.inr.inr.inl | inr.inr.inr.inr.inl | inr.inr.inr.inr.inr.inl =>
    obtain rfl := Except.ok.inj h
    constructor
  all_goals
    obtain ⟨x, _, rfl⟩ := ok_of_map h
    constructor

/-- A field that the setting of a name fills with what `read` makes of a value, and that no other
setting writes. -/
structure Fills {α : Type} (name : String) (read : String → Except String α)
    (field : Config → α) : Prop where
  own : ∃ s ∈ settings, s.name = name ∧ ∀ v c, (s.set v c).map field = read v
  others : ∀ n c c', Writes c n c' → n ≠ name → field c' = field c

section

variable {α : Type} {name : String} {read : String → Except String α} {field : Config → α}

/-- What the setting leaves in its field. -/
theorem Fills.read_of_set (hf : Fills name read field) {s : Setting} (hs : s ∈ settings)
    (hname : s.name = name) {value : String} {c c' : Config} (h : s.set value c = .ok c') :
    read value = .ok (field c') := by
  obtain ⟨t, ht, htname, hset⟩ := hf.own
  obtain rfl := setting_ext hs ht (hname.trans htname.symm)
  rw [← hset value c, h]
  rfl

/-- A field holds what the pairs tell of its setting, and stays as it is where they tell nothing or
the setting was given before. -/
theorem Fills.takePairs (hf : Fills name read field) (given : List String) (c c' : Config)
    (pairs : List (String × String)) (h : takePairs given c pairs = .ok c') :
    (name ∈ given → field c' = field c) ∧
      (name ∉ given →
        match told? pairs name with
        | none => field c' = field c
        | some value => read value = .ok (field c')) := by
  fun_induction Config.takePairs given c pairs with
  | case1 given c =>
    obtain rfl := Except.ok.inj h
    exact ⟨fun _ => rfl, fun _ => rfl⟩
  | case2 given c key value pairs hkey ih =>
    obtain ⟨s, hs, hname, _⟩ := hf.own
    rw [told?_cons_of_ne pairs (hname ▸ name_ne_of_setting? hkey hs)]
    exact ih h
  | case3 => cases h
  | case4 => cases h
  | case5 given c key value pairs s hkey hnew c₁ hset ih =>
    obtain ⟨hs, hlower⟩ := name_of_setting? hkey
    obtain ⟨hkept, hfilled⟩ := ih h
    by_cases hname : s.name = name
    · -- The setting is given here, so the pairs behind it leave its field alone.
      have hfield : field c' = field c₁ := hkept (by simp [hname])
      refine ⟨fun hgiven => absurd hgiven ?_, fun _ => ?_⟩
      · simpa [hname] using hnew
      · rw [told?_cons_of_eq pairs (hlower.symm.trans hname), hfield]
        exact hf.read_of_set hs hname hset
    · have hfield : field c₁ = field c := hf.others _ _ _ (writes_of_set hs hset) hname
      rw [told?_cons_of_ne pairs (hlower ▸ hname), ← hfield]
      refine ⟨fun hgiven => hkept (List.mem_cons_of_mem _ hgiven), fun hfresh => hfilled ?_⟩
      simp only [List.mem_cons, not_or]
      exact ⟨Ne.symm hname, hfresh⟩

end

/-! ## Origins -/

theorem fills_corsOrigins :
    Fills "cors_origins" (fun value => .ok (readList value)) (·.corsOrigins) where
  own := ⟨settings[2], List.getElem_mem _, rfl, fun _ _ => rfl⟩
  others := by
    intro n c c' h hname
    cases h with
    | corsOrigins => exact absurd rfl hname
    | _ => rfl

theorem corsOrigins_of_takePairs {pairs : List (String × String)} {c : Config}
    (h : takePairs [] default pairs = .ok c) : c.corsOrigins = toldOrigins pairs := by
  have hfield := (fills_corsOrigins.takePairs [] default c pairs h).2 List.not_mem_nil
  unfold toldOrigins
  cases htold : told? pairs "cors_origins" with
  | none =>
    rw [htold] at hfield
    exact hfield
  | some value =>
    rw [htold] at hfield
    exact (Except.ok.inj hfield).symm

/-! ## Fields of a server -/

theorem fills_host : Fills "server_host" .ok (·.host) where
  own := ⟨settings[0], List.getElem_mem _, rfl, fun _ _ => rfl⟩
  others := by
    intro n c c' h hname
    cases h with
    | host => exact absurd rfl hname
    | _ => rfl

theorem fills_port :
    Fills "server_port" (fun value => (readUnsigned 16 value).map .ofNat) (·.port) where
  own := ⟨settings[1], List.getElem_mem _, rfl, fun _ _ => except_map_map _ _ _⟩
  others := by
    intro n c c' h hname
    cases h with
    | port => exact absurd rfl hname
    | _ => rfl

theorem fills_logLevel : Fills "log_level" .ok (·.logLevel) where
  own := ⟨settings[3], List.getElem_mem _, rfl, fun _ _ => rfl⟩
  others := by
    intro n c c' h hname
    cases h with
    | logLevel => exact absurd rfl hname
    | _ => rfl

theorem fills_logFormat : Fills "log_format" .ok (·.logFormat) where
  own := ⟨settings[4], List.getElem_mem _, rfl, fun _ _ => rfl⟩
  others := by
    intro n c c' h hname
    cases h with
    | logFormat => exact absurd rfl hname
    | _ => rfl

theorem fills_docsEnabled : Fills "docs_enabled" readBool (·.docsEnabled) where
  own := ⟨settings[9], List.getElem_mem _, rfl, fun v c => by
    change ((readBool v).map fun b => { c with docsEnabled := b }).map (·.docsEnabled) = readBool v
    cases readBool v <;> rfl⟩
  others := by
    intro n c c' h hname
    cases h with
    | docsEnabled => exact absurd rfl hname
    | _ => rfl

/-! ## Fields of a database -/

theorem fills_databaseUrl :
    Fills "database_url" (fun value => .ok (some value)) (·.databaseUrl) where
  own := ⟨settings[5], List.getElem_mem _, rfl, fun _ _ => rfl⟩
  others := by
    intro n c c' h hname
    cases h with
    | databaseUrl => exact absurd rfl hname
    | _ => rfl

theorem fills_maxConnections :
    Fills "database_max_connections" (fun value => (readUnsigned 32 value).map .ofNat)
      (·.maxConnections) where
  own := ⟨settings[6], List.getElem_mem _, rfl, fun _ _ => except_map_map _ _ _⟩
  others := by
    intro n c c' h hname
    cases h with
    | maxConnections => exact absurd rfl hname
    | _ => rfl

theorem fills_minConnections :
    Fills "database_min_connections" (fun value => (readUnsigned 32 value).map .ofNat)
      (·.minConnections) where
  own := ⟨settings[7], List.getElem_mem _, rfl, fun _ _ => except_map_map _ _ _⟩
  others := by
    intro n c c' h hname
    cases h with
    | minConnections => exact absurd rfl hname
    | _ => rfl

theorem fills_connectionTimeout :
    Fills "database_connection_timeout" (fun value => (readUnsigned 64 value).map .ofNat)
      (·.connectionTimeout) where
  own := ⟨settings[8], List.getElem_mem _, rfl, fun _ _ => except_map_map _ _ _⟩
  others := by
    intro n c c' h hname
    cases h with
    | connectionTimeout => exact absurd rfl hname
    | _ => rfl

/-- A value is read as the number that it tells, if there is room for that. -/
theorem readUnsigned_eq_ok_iff {bits : Nat} {value : String} {n : Nat} :
    readUnsigned bits value = .ok n ↔ Numeral.Tells value.toList n ∧ n < 2 ^ bits := by
  have hread := Numeral.read_unsigned_eq_ok_iff bits value.toList
  unfold readUnsigned Octets.ofString
  split
  · rename_i m hm
    obtain ⟨k, rfl, htells, hlt⟩ := (hread m).1 hm
    rw [Int.toNat_natCast, Except.ok.injEq]
    constructor
    · rintro rfl
      exact ⟨htells, hlt⟩
    · rintro ⟨htells', hlt'⟩
      have hm' := (hread n).2 ⟨n, rfl, htells', hlt'⟩
      rw [hm] at hm'
      exact Int.ofNat.inj (Except.ok.inj hm')
  · rename_i fault hfault
    simp only [reduceCtorEq, false_iff]
    rintro ⟨htells, hlt⟩
    rw [(hread n).2 ⟨n, rfl, htells, hlt⟩] at hfault
    cases hfault

/-- A number that fills a field is the number that the pairs tell. -/
theorem toldNumber?_of_takePairs {bits : Nat} {name : String} {α : Type} {ofNat : Nat → α}
    {field : Config → α} (toNat : α → Nat)
    (hf : Fills name (fun value => (readUnsigned bits value).map ofNat) field)
    (hlossless : ∀ n < 2 ^ bits, toNat (ofNat n) = n)
    {pairs : List (String × String)} {c : Config} (h : takePairs [] default pairs = .ok c) :
    toldNumber? bits pairs name (toNat (field default)) = some (toNat (field c)) := by
  have hfield := (hf.takePairs [] default c pairs h).2 List.not_mem_nil
  unfold toldNumber?
  split <;> rename_i htold <;> rw [htold] at hfield
  · rw [hfield]
  · obtain ⟨n, hread, hn⟩ := ok_of_map hfield
    rw [hread, ← hn, hlossless n (readUnsigned_eq_ok_iff.1 hread).2]
    rfl

end Workspaces.Config
