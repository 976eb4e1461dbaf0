-- Settings: how the server is to run.
import Workspaces.Fault
import Workspaces.Text.Blank
import Workspaces.Text.Numeral

namespace Workspaces

structure Config where
  host : String
  port : UInt16
  corsOrigins : List String
  logLevel : String
  logFormat : String
  databaseUrl : Option String
  maxConnections : UInt32
  minConnections : UInt32
  connectionTimeout : UInt64
  docsEnabled : Bool
  deriving DecidableEq, Repr

/-- How a database is reached. -/
structure DatabaseConfig where
  url : String
  maxConnections : UInt32
  minConnections : UInt32
  connectionTimeout : UInt64
  deriving DecidableEq, Repr

/-! ## Faults -/

/-- Why settings are refused. -/
inductive ConfigFault where
  | repeated (field : String)
  | unreadable (reason value key : String)
  | noConnections
  | tooManyIdle
  | unknownLogFormat (format : String)
  | invalidOrigin (origin : String)
  deriving DecidableEq, Repr

namespace ConfigFault

def message : ConfigFault → String
  | repeated field => "Failed to load config: duplicate field `" ++ field ++ "`"
  | unreadable reason value key =>
    s!"Failed to load config: {reason} while parsing value '{value}' provided by {key}"
  | noConnections => "DATABASE_MAX_CONNECTIONS must be > 0"
  | tooManyIdle => "DATABASE_MIN_CONNECTIONS cannot be greater than DATABASE_MAX_CONNECTIONS"
  | unknownLogFormat format => s!"LOG_FORMAT must be 'json' or 'pretty', got '{format}'"
  | invalidOrigin origin => "CORS_ORIGINS contains an invalid origin: " ++ origin

def fault (f : ConfigFault) : Fault := .config f.message

end ConfigFault

namespace Config

/-! ## Settings by name -/

/-- The settings that hold unless told otherwise. -/
def default : Config where
  host := "127.0.0.1"
  port := 8000
  corsOrigins := ["http://localhost:3000"]
  logLevel := "info"
  logFormat := "json"
  databaseUrl := none
  maxConnections := 20
  minConnections := 5
  connectionTimeout := 30
  docsEnabled := true

/-- A setting that can be given: its name, and what a value does to the settings. -/
structure Setting where
  name : String
  set : String → Config → Except String Config

/-- An integer of so many bits, without a sign. -/
def readUnsigned (bits : Nat) (value : String) : Except String Nat :=
  match Numeral.read (.unsigned bits) (Octets.ofString value) with
  | .ok n => .ok n.toNat
  | .error fault => .error fault.message

def readBool (value : String) : Except String Bool :=
  if value = "true" then .ok true
  else if value = "false" then .ok false
  else .error "provided string was not `true` or `false`"

/-- The pieces between commas, blanks and empty pieces included; none of an empty text. -/
def readList (value : String) : List String :=
  if value = "" then [] else (value.toList.splitOn ',').map String.ofList

def settings : List Setting := [
  ⟨"server_host", fun v c => .ok { c with host := v }⟩,
  ⟨"server_port", fun v c => (readUnsigned 16 v).map fun n => { c with port := .ofNat n }⟩,
  ⟨"cors_origins", fun v c => .ok { c with corsOrigins := readList v }⟩,
  ⟨"log_level", fun v c => .ok { c with logLevel := v }⟩,
  ⟨"log_format", fun v c => .ok { c with logFormat := v }⟩,
  ⟨"database_url", fun v c => .ok { c with databaseUrl := some v }⟩,
  ⟨"database_max_connections", fun v c =>
    (readUnsigned 32 v).map fun n => { c with maxConnections := .ofNat n }⟩,
  ⟨"database_min_connections", fun v c =>
    (readUnsigned 32 v).map fun n => { c with minConnections := .ofNat n }⟩,
  ⟨"database_connection_timeout", fun v c =>
    (readUnsigned 64 v).map fun n => { c with connectionTimeout := .ofNat n }⟩,
  ⟨"docs_enabled", fun v c => (readBool v).map fun b => { c with docsEnabled := b }⟩]

/-- A key with its ASCII letters in their small form. No other letter has a small form that
occurs in the name of a setting. -/
def lowerKey (key : String) : String := String.ofList (key.toList.map Char.toLower)

/-- The setting that a key names, in letters of either case. -/
def setting? (key : String) : Option Setting := settings.find? (·.name = lowerKey key)

/-- Takes settings from pairs of key and value, in order, onto those of the names `given`.
Other keys are passed over, and a setting is given once at most. -/
def takePairs (given : List String) (c : Config) :
    List (String × String) → Except ConfigFault Config
  | [] => .ok c
  | (key, value) :: pairs =>
    match setting? key with
    | none => takePairs given c pairs
    | some setting =>
      if given.contains setting.name then .error (.repeated setting.name)
      else
        match setting.set value c with
        | .error reason => .error (.unreadable reason value key)
        | .ok c => takePairs (setting.name :: given) c pairs

/-! ## Validation -/

/-- Whether the text can stand in a header: no control character but the tab. -/
def isHeaderText (s : String) : Bool :=
  (Octets.ofString s).all fun b => b = 0x09 || (0x20 ≤ b && b ≠ 0x7F)

/-- The text as the value of a header, if it can be one. -/
def headerText? (s : String) : Option String := if isHeaderText s then some s else none

/-- Refuses settings that the server cannot run with. -/
def check (c : Config) : Except ConfigFault Unit :=
  if c.maxConnections = 0 then .error .noConnections
  else if c.maxConnections < c.minConnections then .error .tooManyIdle
  else if c.logFormat ≠ "json" ∧ c.logFormat ≠ "pretty" then
    .error (.unknownLogFormat c.logFormat)
  else
    match c.corsOrigins.find? fun origin => origin ≠ "*" && !isHeaderText origin with
    | some origin => .error (.invalidOrigin origin)
    | none => .ok ()

/-- The settings that pairs of key and value give. -/
def ofPairs (pairs : List (String × String)) : Except ConfigFault Config :=
  match takePairs [] default pairs with
  | .error fault => .error fault
  | .ok c => (c.check).map fun _ => c

/-! ## Views -/

/-- The database, if one is set. A blank address counts as none. -/
def database? (c : Config) : Option DatabaseConfig :=
  match c.databaseUrl.map Text.trim with
  | none | some "" => none
  | some url => some ⟨url, c.maxConnections, c.minConnections, c.connectionTimeout⟩

/-- Where the server listens. -/
def address (c : Config) : String := s!"{c.host}:{c.port}"

/-- Whether requests of any origin may be answered. -/
def allowsAnyOrigin (c : Config) : Bool := c.corsOrigins.contains "*"

end Config

end Workspaces
