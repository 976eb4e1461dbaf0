-- Startup: settings that have passed their check meet what a pool of connections demands of its
-- sizes. Of its timeout the check asks nothing, so over that alone the program can stop.
import Mathlib.Tactic.SplitIfs
import Workspaces.Proofs.Config.Settings
import Workspaces.Store.Backend

namespace Workspaces

namespace Config

/-! ## The check of pool sizes -/

theorem check_of_noConnections {c : Config} (h : c.maxConnections = 0) :
    c.check = .error .noConnections := by
  unfold check
  rw [if_pos h]

theorem check_of_tooManyIdle {c : Config} (hsome : c.maxConnections ≠ 0)
    (h : c.maxConnections < c.minConnections) : c.check = .error .tooManyIdle := by
  unfold check
  rw [if_neg hsome, if_pos h]

/-- The sizes of a pool that no check refuses. -/
theorem sizes_of_check {c : Config} (h : c.check = .ok ()) :
    c.maxConnections ≠ 0 ∧ ¬ c.maxConnections < c.minConnections := by
  have hsome : c.maxConnections ≠ 0 := by
    intro hnone
    rw [check_of_noConnections hnone] at h
    cases h
  refine ⟨hsome, fun hidle => ?_⟩
  rw [check_of_tooManyIdle hsome hidle] at h
  cases h

/-- An origin that passes the check is the wildcard or can stand in a header. -/
theorem origins_of_check {c : Config} (h : c.check = .ok ()) :
    ∀ origin ∈ c.corsOrigins, origin = "*" ∨ isHeaderText origin = true := by
  unfold check at h
  split_ifs at h
  split at h
  · cases h
  · rename_i hnone
    intro origin horigin
    have hgood := List.find?_eq_none.1 hnone origin horigin
    by_cases hany : origin = "*"
    · exact .inl hany
    · exact .inr (by simpa [hany] using hgood)

theorem ofPairs_of_error {pairs : List (String × String)} {c : Config} {fault : ConfigFault}
    (hread : takePairs [] default pairs = .ok c) (h : c.check = .error fault) :
    ofPairs pairs = .error fault := by
  unfold ofPairs
  rw [hread]
  simp only [h]
  rfl

theorem ok_of_ofPairs {pairs : List (String × String)} {c : Config} (h : ofPairs pairs = .ok c) :
    takePairs [] default pairs = .ok c ∧ c.check = .ok () := by
  unfold ofPairs at h
  split at h
  · cases h
  · rename_i c' hread
    obtain ⟨_, hcheck, rfl⟩ := ok_of_map h
    exact ⟨hread, hcheck⟩

/-! ## The database of settings -/

theorem databaseUrl_of_takePairs {pairs : List (String × String)} {c : Config}
    (h : takePairs [] default pairs = .ok c) : c.databaseUrl = told? pairs "database_url" := by
  have hfield := (fills_databaseUrl.takePairs [] default c pairs h).2 List.not_mem_nil
  split at hfield <;> rename_i htold <;> rw [htold]
  · exact hfield
  · exact (Except.ok.inj hfield).symm

/-- The database, by the address that counts. -/
theorem database?_eq (c : Config) :
    c.database? = ((c.databaseUrl.map Text.trim).filter (· ≠ "")).map fun url =>
      ⟨url, c.maxConnections, c.minConnections, c.connectionTimeout⟩ := by
  unfold database?
  split
  · rename_i h
    rw [h]
    rfl
  · rename_i h
    rw [h]
    rfl
  · rename_i url hblank h
    have hurl : url ≠ "" := hblank
    rw [h, Option.filter_some, if_pos (by simpa using hurl)]
    rfl

theorem eq_of_database? {c : Config} {d : DatabaseConfig} (h : c.database? = some d) :
    d = ⟨d.url, c.maxConnections, c.minConnections, c.connectionTimeout⟩ := by
  obtain ⟨url, _, rfl⟩ := Option.map_eq_some_iff.1 (c.database?_eq.symm.trans h)
  rfl

theorem toldAddress?_of_takePairs {pairs : List (String × String)} {c : Config}
    (h : takePairs [] default pairs = .ok c) : toldAddress? pairs = c.database?.map (·.url) := by
  rw [database?_eq, databaseUrl_of_takePairs h, Option.map_map]
  exact Option.map_id'.symm

theorem database?_of_untold {pairs : List (String × String)} {c : Config}
    (h : takePairs [] default pairs = .ok c) (huntold : toldAddress? pairs = none) :
    c.database? = none := by
  rw [toldAddress?_of_takePairs h] at huntold
  exact Option.map_eq_none_iff.1 huntold

theorem exists_database {pairs : List (String × String)} {c : Config}
    (h : takePairs [] default pairs = .ok c) (htold : toldAddress? pairs ≠ none) :
    ∃ d, c.database? = some d := by
  rw [toldAddress?_of_takePairs h] at htold
  exact Option.ne_none_iff_exists'.1 fun hnone => htold (Option.map_eq_none_iff.2 hnone)

end Config

/-- The settings of the pool are what pairs tell of the database. -/
structure PoolSettings.ToldBy (s : PoolSettings) (pairs : List (String × String)) : Prop where
  url : Config.toldAddress? pairs = some s.url
  size : Config.toldNumber? 32 pairs "database_max_connections" 20 = some s.size.toNat
  idle : Config.toldNumber? 32 pairs "database_min_connections" 5 = s.minIdle.map UInt32.toNat
  timeout : Config.toldNumber? 64 pairs "database_connection_timeout" 30 = some s.timeout.toNat

theorem DatabaseConfig.poolSettings_toldBy {pairs : List (String × String)} {c : Config}
    {d : DatabaseConfig} (h : Config.takePairs [] .default pairs = .ok c)
    (hd : c.database? = some d) : d.poolSettings.ToldBy pairs := by
  have haddress := Config.toldAddress?_of_takePairs h
  rw [hd] at haddress
  rw [Config.eq_of_database? hd]
  exact {
    url := haddress
    size := Config.toldNumber?_of_takePairs UInt32.toNat Config.fills_maxConnections
      (fun _ hn => UInt32.toNat_ofNat_of_lt' hn) h
    idle := Config.toldNumber?_of_takePairs UInt32.toNat Config.fills_minConnections
      (fun _ hn => UInt32.toNat_ofNat_of_lt' hn) h
    timeout := Config.toldNumber?_of_takePairs UInt64.toNat Config.fills_connectionTimeout
      (fun _ hn => UInt64.toNat_ofNat_of_lt' hn) h }

/-! ## Building a pool -/

namespace PoolBuilder

/-- What is documented of a builder that goes by a clock: settings that break a demand stop the
program, and nothing else does. It is left open which databases the builder connects to, so where
every demand is met it may answer either way. -/
structure Documented (b : PoolBuilder) (clock : Clock) : Prop where
  stops : ∀ s demand, ¬ s.Meets clock demand → ∃ broken, b.build s = .stopped broken
  broken : ∀ s demand, b.build s = .stopped demand → ¬ s.Meets clock demand

theorem documented_standIn (clock : Clock) (unreachable? : String → Option String) :
    (standIn clock unreachable?).Documented clock where
  stops s demand hbroken := by
    have hmem : demand ∈ PoolDemand.inTurn := by cases demand <;> decide
    unfold standIn
    cases hfind : PoolDemand.inTurn.find? fun demand => ¬ s.Meets clock demand with
    | some broken => exact ⟨broken, by simp only [hfind]⟩
    | none =>
      have hmeets := List.find?_eq_none.1 hfind demand hmem
      exact absurd hbroken (by simpa using hmeets)
  broken s demand hstopped := by
    unfold standIn at hstopped
    cases hfind : PoolDemand.inTurn.find? fun demand => ¬ s.Meets clock demand with
    | some broken =>
      simp only [hfind] at hstopped
      obtain rfl := PoolAnswer.stopped.inj hstopped
      simpa using List.find?_some hfind
    | none =>
      simp only [hfind] at hstopped
      split at hstopped
      · cases hstopped
      · cases hunreachable : unreachable? s.url <;> rw [hunreachable] at hstopped <;> cases hstopped

variable {b : PoolBuilder} {clock : Clock} {s : PoolSettings} {demand : PoolDemand}

/-- Over the one demand that is broken the program stops. -/
theorem Documented.build_of_broken (h : b.Documented clock) (hbroken : ¬ s.Meets clock demand)
    (hothers : ∀ other, other ≠ demand → s.Meets clock other) :
    b.build s = .stopped demand := by
  obtain ⟨first, hfirst⟩ := h.stops s demand hbroken
  have hsame : first = demand := by
    by_contra hother
    exact h.broken s first hfirst (hothers first hother)
  rw [hfirst, hsame]

/-- With no demand broken there is a pool, or a reason why there is none. -/
theorem Documented.build_of_met (h : b.Documented clock)
    (hmeets : ∀ demand, s.Meets clock demand) :
    b.build s = .built ∨ ∃ reason, b.build s = .failed reason := by
  cases hanswer : b.build s with
  | built => exact .inl rfl
  | failed reason => exact .inr ⟨reason, rfl⟩
  | stopped demand => exact absurd (hmeets demand) (h.broken s demand hanswer)

theorem Documented.stops_over_sizes (h : b.Documented clock)
    (hsizes : ¬ (s.Meets clock .positiveSize ∧ s.Meets clock .idleWithinSize)) :
    ∃ demand, b.build s = .stopped demand := by
  rcases not_and_or.1 hsizes with hsize | hidle
  · exact h.stops s _ hsize
  · exact h.stops s _ hidle

/-- Of a pool whose sizes are in order only the timeout can be wrong. One of no time has an end that
the clock can show, so it cannot be wrong in two ways. -/
theorem Documented.build_of_sizes (h : b.Documented clock) (hsize : s.Meets clock .positiveSize)
    (hidle : s.Meets clock .idleWithinSize) :
    (s.timeout = 0 → b.build s = .stopped .positiveTimeout) ∧
    (¬ clock.Reaches s.timeout.toNat → b.build s = .stopped .reachableDeadline) ∧
    (s.timeout ≠ 0 → clock.Reaches s.timeout.toNat →
      b.build s = .built ∨ ∃ reason, b.build s = .failed reason) := by
  refine ⟨fun hzero => ?_, fun hlate => ?_, fun hsome hreaches => ?_⟩
  · have hreaches : s.Meets clock .reachableDeadline := by
      change clock.Reaches s.timeout.toNat
      rw [hzero]
      exact clock.now_le_last
    refine h.build_of_broken (fun hmeets => hmeets hzero) fun other hother => ?_
    cases other with
    | positiveTimeout => exact absurd rfl hother
    | positiveSize | idleWithinSize | reachableDeadline => assumption
  · have hsome : s.Meets clock .positiveTimeout := by
      intro hzero
      rw [hzero] at hlate
      exact hlate clock.now_le_last
    refine h.build_of_broken hlate fun other hother => ?_
    cases other with
    | reachableDeadline => exact absurd rfl hother
    | positiveSize | positiveTimeout | idleWithinSize => assumption
  · refine h.build_of_met fun demand => ?_
    cases demand <;> assumption

end PoolBuilder

namespace Backend

theorem ofConfig_of_none (b : PoolBuilder) {c : Config} (h : c.database? = none) :
    ofConfig b c = .ok .memory := by
  unfold ofConfig
  rw [h]

theorem ofConfig_of_some (b : PoolBuilder) {c : Config} {d : DatabaseConfig}
    (h : c.database? = some d) :
    ofConfig b c = (b.build d.poolSettings).outcome.map fun _ => .postgres := by
  unfold ofConfig
  rw [h]
  rfl

/-! ## Starting from a checked config -/

/-- The sizes of a pool are in order exactly if the check of the settings does not refuse them. -/
theorem meets_sizes_iff {c : Config} {d : DatabaseConfig} (clock : Clock)
    (hd : c.database? = some d) :
    (d.poolSettings.Meets clock .positiveSize ∧ d.poolSettings.Meets clock .idleWithinSize) ↔
      c.maxConnections ≠ 0 ∧ ¬ c.maxConnections < c.minConnections := by
  rw [Config.eq_of_database? hd, UInt32.not_lt]
  refine and_congr_right fun _ => ⟨fun hidle => hidle _ rfl, fun hidle idle hmem => ?_⟩
  rwa [← Option.some.inj hmem]

/-- Unchecked, sizes out of order stop the program. -/
theorem ofConfig_of_sizes {b : PoolBuilder} {clock : Clock} (hb : b.Documented clock) {c : Config}
    {d : DatabaseConfig} (hd : c.database? = some d)
    (hsizes : c.maxConnections = 0 ∨ c.maxConnections < c.minConnections) :
    ∃ demand, ofConfig b c = .error (.defect demand) := by
  have hbroken : ¬ (d.poolSettings.Meets clock .positiveSize ∧
      d.poolSettings.Meets clock .idleWithinSize) := by
    rw [meets_sizes_iff clock hd]
    exact fun hinOrder => hsizes.elim hinOrder.1 hinOrder.2
  obtain ⟨demand, hstopped⟩ := hb.stops_over_sizes hbroken
  refine ⟨demand, ?_⟩
  rw [ofConfig_of_some b hd, hstopped]
  rfl

/-- Settings that have passed their check stop the program only over their timeout: if it is zero, or
has an end that the clock cannot show. Without the address of a database they give memory, and with
one the database or the fault that the builder tells. Sizes out of order, which would stop the
program, are refused by the check. -/
theorem a_checked_config_stops_the_program_only_over_its_timeout {b : PoolBuilder} {clock : Clock}
    (hb : b.Documented clock) (pairs : List (String × String)) :
    (∀ c, Config.ofPairs pairs = .ok c →
      (Config.toldAddress? pairs = none → ofConfig b c = .ok .memory) ∧
      (Config.toldAddress? pairs ≠ none → ∃ s : PoolSettings, s.ToldBy pairs ∧
        ofConfig b c = (b.build s).outcome.map (fun _ => .postgres) ∧
        s.Meets clock .positiveSize ∧ s.Meets clock .idleWithinSize ∧
        (s.timeout = 0 → b.build s = .stopped .positiveTimeout) ∧
        (¬ clock.Reaches s.timeout.toNat → b.build s = .stopped .reachableDeadline) ∧
        (s.timeout ≠ 0 → clock.Reaches s.timeout.toNat →
          b.build s = .built ∨ ∃ reason, b.build s = .failed reason))) ∧
    ∀ c, Config.takePairs [] .default pairs = .ok c →
      (c.maxConnections = 0 →
        (Config.ofPairs pairs).mapError ConfigFault.fault =
          .error (.config "DATABASE_MAX_CONNECTIONS must be > 0")) ∧
      (c.maxConnections ≠ 0 → c.maxConnections < c.minConnections →
        (Config.ofPairs pairs).mapError ConfigFault.fault =
          .error (.config
            "DATABASE_MIN_CONNECTIONS cannot be greater than DATABASE_MAX_CONNECTIONS")) ∧
      (c.maxConnections = 0 ∨ c.maxConnections < c.minConnections →
        Config.toldAddress? pairs ≠ none → ∃ demand, ofConfig b c = .error (.defect demand)) := by
  constructor
  · intro c h
    obtain ⟨hread, hcheck⟩ := Config.ok_of_ofPairs h
    refine ⟨fun huntold => ?_, fun htold => ?_⟩
    · exact ofConfig_of_none b (Config.database?_of_untold hread huntold)
    · obtain ⟨d, hd⟩ := Config.exists_database hread htold
      obtain ⟨hsize, hidle⟩ := (meets_sizes_iff clock hd).2 (Config.sizes_of_check hcheck)
      exact ⟨d.poolSettings, DatabaseConfig.poolSettings_toldBy hread hd, ofConfig_of_some b hd,
        hsize, hidle, hb.build_of_sizes hsize hidle⟩
  · intro c hread
    refine ⟨fun hnone => ?_, fun hsome hidle => ?_, fun hsizes htold => ?_⟩
    · rw [Config.ofPairs_of_error hread (Config.check_of_noConnections hnone)]
      rfl
    · rw [Config.ofPairs_of_error hread (Config.check_of_tooManyIdle hsome hidle)]
      rfl
    · obtain ⟨d, hd⟩ := Config.exists_database hread htold
      exact ofConfig_of_sizes hb hd hsizes

/-- The address of a database, with connections to begin with and a timeout of so many seconds. -/
def Sample.timed (idle seconds : String) : List (String × String) :=
  [("DATABASE_URL", "x"), ("DATABASE_MIN_CONNECTIONS", idle),
    ("DATABASE_CONNECTION_TIMEOUT", seconds)]

/-- The settings that come of them. -/
def Sample.timedConfig (idle : UInt32) (seconds : UInt64) : Config :=
  { Config.default with
    databaseUrl := some "x", minConnections := idle, connectionTimeout := seconds }

/-- A clock of 63 bits, a minute after its start. -/
def Sample.clock : Clock := ⟨60, 9223372036854775807, by decide⟩

/-- A builder that finds no database where an address is none. -/
def Sample.builder : PoolBuilder := .standIn Sample.clock fun url =>
  if url = "x" then
    some "timed out waiting for connection: missing \"=\" after \"x\" in connection info string\n"
  else none

/-- A pool that is to begin with five connections to a database out of reach is a fault, and pools
of no size or with more idle connections than they have room for are refused. -/
theorem a_database_out_of_reach_is_a_fault_and_no_defect :
    Sample.builder.Documented Sample.clock ∧
    ofConfig Sample.builder (Sample.timedConfig 0 30) = .ok .postgres ∧
    ofConfig Sample.builder (Sample.timedConfig 5 30) = .error (.fault (.pool
      "timed out waiting for connection: missing \"=\" after \"x\" in connection info string\n")) ∧
    (∃ s : PoolSettings, s.ToldBy (Sample.timed "5" "30") ∧
      ofConfig Sample.builder (Sample.timedConfig 5 30) =
        (Sample.builder.build s).outcome.map fun _ => .postgres) ∧
    (Config.ofPairs [("Database_Max_Connections", "0")]).mapError ConfigFault.fault =
      .error (.config "DATABASE_MAX_CONNECTIONS must be > 0") ∧
    (Config.ofPairs [("DATABASE_MAX_CONNECTIONS", "4")]).mapError ConfigFault.fault =
      .error (.config
        "DATABASE_MIN_CONNECTIONS cannot be greater than DATABASE_MAX_CONNECTIONS") := by
  have hb : Sample.builder.Documented Sample.clock := PoolBuilder.documented_standIn _ _
  have hchecked : Config.ofPairs (Sample.timed "5" "30") = .ok (Sample.timedConfig 5 30) := by
    decide +kernel
  have haddress : Config.toldAddress? (Sample.timed "5" "30") ≠ none := by decide +kernel
  obtain ⟨s, htold, hbackend, _⟩ :=
    ((a_checked_config_stops_the_program_only_over_its_timeout hb _).1 _ hchecked).2 haddress
  refine ⟨hb, by decide +kernel, by decide +kernel, ⟨s, htold, hbackend⟩, ?_, ?_⟩
  · exact ((a_checked_config_stops_the_program_only_over_its_timeout hb _).2
      { Config.default with maxConnections := 0 } (by decide +kernel)).1 rfl
  · exact ((a_checked_config_stops_the_program_only_over_its_timeout hb _).2
      { Config.default with maxConnections := 4 } (by decide +kernel)).2.1 (by decide) (by decide)

/-- Settings that are checked and found good, and leave no time to connect in. -/
theorem a_checked_config_can_break_a_demand :
    ∃ c, Config.ofPairs (Sample.timed "0" "0") = .ok c ∧
      ofConfig Sample.builder c = .error (.defect .positiveTimeout) :=
  ⟨Sample.timedConfig 0 0, by decide +kernel, by decide +kernel⟩

end Backend

end Workspaces
