-- The program: it settles how the server is to run and says where. It opens no socket, so the
-- address is told as it stands, and connects to no database; what is done with a request once it has
-- been read is `Http.Server.serve`.
import Workspaces.Config.CommandLine
import Workspaces.Config.Environment
import Workspaces.Store.Backend

namespace Workspaces.Program

/-! ## How a run ends -/

inductive Ending where
  | ready (address : String) (backend : Backend)
  | refused (refusal : CommandLine.Refusal)
  | misconfigured (fault : ConfigFault)
  | unloaded (u : Environment.Unsettable)
  | unstored (fault : Fault)
  | broken (demand : PoolDemand)
  deriving DecidableEq, Repr

/-- What comes of the arguments, an environment and a file of settings. The arguments are looked
at first, and what they override is put in place once the settings have been checked. -/
def ending (b : PoolBuilder) (args : List String) (env : Environment) (file : String) : Ending :=
  match CommandLine.read args with
  | .error refusal => .refused refusal
  | .ok overrides =>
    match Config.ofEnvironment env file with
    | .error u => .unloaded u
    | .ok (.error fault) => .misconfigured fault
    | .ok (.ok settings) =>
      let settings := overrides.apply settings
      match Backend.ofConfig b settings with
      | .error (.fault fault) => .unstored fault
      | .error (.defect demand) => .broken demand
      | .ok backend => .ready settings.address backend

namespace Ending

/-- What the program says. A refusal that has no text of its own points to the help, and of a
defect this is what is told beside its place in the program. -/
def text : Ending → String
  | ready address backend => s!"Workspaces in {backend.name}, to be served at {address}\n"
  | refused refusal =>
    refusal.text?.getD "error: unusable arguments\n\nFor more information, try '--help'.\n"
  | misconfigured fault => s!"trajan: {fault.fault.message}\n"
  | unstored fault => s!"trajan: {fault.message}\n"
  | unloaded u => s!"{u.message}\n"
  | broken demand => s!"{demand.message}\n"

/-- The exit code. To ask for the help or the version is no mistake, and a defect has a code of its
own. -/
def code : Ending → UInt32
  | ready .. | refused .help | refused .version => 0
  | refused _ => 2
  | misconfigured _ | unstored _ => 1
  | unloaded _ | broken _ => 101

end Ending

/-! ## Surroundings -/

/-- The names of variables that a file of settings may ask for: its keys, and the names behind
dollar signs. -/
def mentionedNames (file : String) : List String :=
  let words (inWord : Char → Bool) := (file.toList.splitOnP fun c => !inWord c).map String.ofList
  words EnvFile.continuesKey ++ words Text.isAlphanumeric

/-- The names of the settings, in capital letters. -/
def settingNames : List String := Config.settings.map fun s => s.name.toUpper

/-- The variables of these names that are set. -/
def environmentOf (names : List String) : IO Environment := do
  let found ← names.eraseDups.filterMapM fun name => do
    return (← IO.getEnv name).map fun value => (name, value)
  return .ofPairs found

/-- The file of settings in the working directory. One that is missing or unreadable is empty. -/
def settingsFile : IO String := do
  try IO.FS.readFile ".env" catch _ => return ""

/-- A builder that goes by the clock of the machine, which counts seconds in 63 bits, and takes
every database to be in reach. -/
def builder : IO PoolBuilder := do
  let now := (← IO.monoMsNow) / 1000
  return .standIn ⟨now, max now 9223372036854775807, Nat.le_max_left ..⟩ fun _ => none

end Workspaces.Program

open Workspaces.Program in
/-- Settles how the server is to run. -/
def main (args : List String) : IO UInt32 := do
  let file ← settingsFile
  let env ← environmentOf (settingNames ++ mentionedNames file)
  let e := ending (← builder) args env file
  if e.code = 0 then IO.print e.text else IO.eprint e.text
  return e.code
