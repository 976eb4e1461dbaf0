-- Pools of connections to a database. They are built by a builder from elsewhere: here is what it is
-- given, what it can answer, and what comes of its answers.
import Workspaces.Config.Basic

namespace Workspaces

/-! ## Settings -/

/-- What a pool of connections is built with. The timeout is in seconds. -/
structure PoolSettings where
  url : String
  size : UInt32
  minIdle : Option UInt32
  timeout : UInt64
  deriving DecidableEq, Repr

/-- The pool that a database is set to have. -/
def DatabaseConfig.poolSettings (d : DatabaseConfig) : PoolSettings where
  url := d.url
  size := d.maxConnections
  minIdle := some d.minConnections
  timeout := d.connectionTimeout

/-! ## Demands -/

/-- A clock: the second that it shows, and the last one that it can show. -/
structure Clock where
  now : Nat
  last : Nat
  now_le_last : now ≤ last

/-- The clock can show the moment at which so many seconds will have passed. -/
def Clock.Reaches (clock : Clock) (seconds : Nat) : Prop := clock.now + seconds ≤ clock.last

instance (clock : Clock) (seconds : Nat) : Decidable (clock.Reaches seconds) :=
  inferInstanceAs (Decidable (clock.now + seconds ≤ clock.last))

/-- What a pool of connections demands of its settings. -/
inductive PoolDemand where
  | positiveSize
  | positiveTimeout
  | idleWithinSize
  | reachableDeadline
  deriving DecidableEq, Repr

namespace PoolDemand

def message : PoolDemand → String
  | positiveSize => "max_size must be positive"
  | positiveTimeout => "connection_timeout must be positive"
  | idleWithinSize => "min_idle must be no larger than max_size"
  | reachableDeadline => "overflow when adding duration to instant"

/-- The demands in the order in which they are looked at. -/
def inTurn : List PoolDemand := [positiveSize, positiveTimeout, idleWithinSize, reachableDeadline]

end PoolDemand

namespace PoolSettings

/-- The settings meet the demand where there is such a clock. -/
def Meets (s : PoolSettings) (clock : Clock) : PoolDemand → Prop
  | .positiveSize => s.size ≠ 0
  | .positiveTimeout => s.timeout ≠ 0
  | .idleWithinSize => ∀ idle ∈ s.minIdle, idle ≤ s.size
  | .reachableDeadline => clock.Reaches s.timeout.toNat

-- The instance for options is named: to go through all words would take too long.
instance (s : PoolSettings) (clock : Clock) : DecidablePred (s.Meets clock)
  | .positiveSize => inferInstanceAs (Decidable (s.size ≠ 0))
  | .positiveTimeout => inferInstanceAs (Decidable (s.timeout ≠ 0))
  | .idleWithinSize => Option.decidableForallMem s.minIdle
  | .reachableDeadline => inferInstanceAs (Decidable (clock.Reaches s.timeout.toNat))

end PoolSettings

/-! ## Builders -/

/-- What comes of building a pool. -/
inductive PoolAnswer where
  | built
  /-- The connections to begin with are not there in time. -/
  | failed (reason : String)
  /-- A demand is broken, at which the program stops. -/
  | stopped (demand : PoolDemand)
  deriving DecidableEq, Repr

/-- Why there is no pool: a fault that the program tells, or a defect of the program, at which it
stops. -/
inductive PoolFailure where
  | fault (f : Fault)
  | defect (demand : PoolDemand)
  deriving DecidableEq, Repr

def PoolAnswer.outcome : PoolAnswer → Except PoolFailure Unit
  | built => .ok ()
  | failed reason => .error (.fault (.pool reason))
  | stopped demand => .error (.defect demand)

/-- A builder of pools. What it answers depends on more than the settings: on the clock, and on
which databases can be connected to. -/
structure PoolBuilder where
  build : PoolSettings → PoolAnswer

namespace PoolBuilder

/-- Builds the pool of a database. -/
def pool (b : PoolBuilder) (d : DatabaseConfig) : Except PoolFailure Unit :=
  (b.build d.poolSettings).outcome

/-- A builder that connects to no database, and is told instead why those at some addresses cannot
be connected to. It waits for the connections that are to stay idle, if there are to be any. -/
def standIn (clock : Clock) (unreachable? : String → Option String) : PoolBuilder where
  build s :=
    match PoolDemand.inTurn.find? fun demand => ¬ s.Meets clock demand with
    | some demand => .stopped demand
    | none =>
      if s.minIdle.getD s.size = 0 then .built else (unreachable? s.url).elim .built .failed

end PoolBuilder

end Workspaces
