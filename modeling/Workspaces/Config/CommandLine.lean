-- The command line: options that override settings.
import Workspaces.Config.Basic
import Workspaces.Text.ControlSequence

namespace Workspaces

/-- The settings that a command line overrides. -/
structure Overrides where
  host : Option String
  port : Option UInt16
  logLevel : Option String
  deriving DecidableEq, Repr

namespace Overrides

def none : Overrides := ⟨.none, .none, .none⟩

/-- The settings with what is overridden replaced. -/
def apply (o : Overrides) (c : Config) : Config :=
  { c with
    host := o.host.getD c.host
    port := o.port.getD c.port
    logLevel := o.logLevel.getD c.logLevel }

end Overrides

namespace CommandLine

/-! ## Outcomes -/

/-- Why a command line gives no overrides. Help and version are asked for; the others are
mistakes. -/
inductive Refusal where
  | help
  | version
  | unknownArgument
  | missingValue
  | needlessValue
  | repeatedOption
  | invalidPort (value reason : String)
  deriving DecidableEq, Repr

/-- The text of the help. -/
def helpText : String :=
  "Trajan: a lightweight developer workspace API server\n\n" ++
  "Usage: trajan [OPTIONS]\n\n" ++
  "Options:\n" ++
  "      --host <HOST>            Bind host (overrides SERVER_HOST)\n" ++
  "      --port <PORT>            Bind port (overrides SERVER_PORT)\n" ++
  "      --log-level <LOG_LEVEL>  Log level or filter directive (overrides LOG_LEVEL)\n" ++
  "  -h, --help                   Print help\n" ++
  "  -V, --version                Print version\n"

def versionText : String := "trajan 0.1.0\n"

/-- The text of a refusal, where one is laid down. A value stands in it as a terminal shows it. -/
def Refusal.text? : Refusal → Option String
  | help => some helpText
  | version => some versionText
  | invalidPort value reason =>
    some (s!"error: invalid value '{Text.shown value}' for '--port <PORT>': {reason}\n\n" ++
      "For more information, try '--help'.\n")
  | _ => none

/-! ## Options -/

inductive Opt where
  | host
  | port
  | logLevel
  deriving DecidableEq, Repr

/-- What a name stands for. -/
inductive Named where
  | option (o : Opt)
  | flag (r : Refusal)
  deriving DecidableEq, Repr

/-- What a name behind two hyphens stands for. -/
def named? : List Char → Option Named := fun name =>
  match String.ofList name with
  | "host" => some (.option .host)
  | "port" => some (.option .port)
  | "log-level" => some (.option .logLevel)
  | "help" => some (.flag .help)
  | "version" => some (.flag .version)
  | _ => none

/-- The flag of a letter behind one hyphen. -/
def letter? : Char → Option Refusal
  | 'h' => some .help
  | 'V' => some .version
  | _ => none

/-- The port that a value names. -/
def readPort (value : String) : Except Refusal UInt16 :=
  match Numeral.read (.signed 64) (Octets.ofString value) with
  | .error fault => .error (.invalidPort value fault.message)
  | .ok n =>
    if 0 ≤ n ∧ n ≤ 65535 then .ok (.ofNat n.toNat)
    else .error (.invalidPort value (String.ofList (Numeral.write n) ++ " is not in 0..=65535"))

/-- Gives an option its value. An option has one value, and is given once. -/
def assign (given : Overrides) : Opt → Option String → Except Refusal Overrides
  | _, none => .error .missingValue
  | .host, some value =>
    if given.host.isSome then .error .repeatedOption
    else .ok { given with host := some value }
  | .port, some value =>
    if given.port.isSome then .error .repeatedOption
    else (readPort value).map fun port => { given with port := some port }
  | .logLevel, some value =>
    if given.logLevel.isSome then .error .repeatedOption
    else .ok { given with logLevel := some value }

/-! ## Arguments -/

/-- What an argument is. -/
inductive Argument where
  /-- Two hyphens alone, behind which nothing is an option. -/
  | separator
  | long (name : List Char) (value : Option (List Char))
  | short (letters : List Char)
  | plain
  deriving DecidableEq, Repr

def Argument.of : List Char → Argument
  | ['-', '-'] => .separator
  | '-' :: '-' :: rest =>
    match rest.span (· ≠ '=') with
    | (name, _ :: value) => .long name (some value)
    | (name, []) => .long name none
  | '-' :: c :: rest => .short (c :: rest)
  | _ => .plain

/-- An option whose value is still to come, or to be looked at. -/
structure Pending where
  option : Opt
  value : Option String
  deriving DecidableEq, Repr

/-- Gives the pending option its value. -/
def settle (given : Overrides) : Option Pending → Except Refusal Overrides
  | none => .ok given
  | some p => assign given p.option p.value

/-- Reads arguments from left to right. The value of an option is looked at when the next option
is met or the arguments end, so an unknown argument in between is told first. -/
def readFrom (given : Overrides) (pending : Option Pending) : List String → Except Refusal Overrides
  | [] => settle given pending
  | arg :: args =>
    match Argument.of arg.toList with
    | .separator => if args = [] then settle given pending else .error .unknownArgument
    | .long name value =>
      match named? name, value with
      | none, _ => .error .unknownArgument
      | some (.flag _), some _ => .error .needlessValue
      | some (.flag refusal), none => (settle given pending).bind fun _ => .error refusal
      | some (.option o), some value =>
        (settle given pending).bind fun given =>
          (assign given o (some (String.ofList value))).bind fun given => readFrom given none args
      | some (.option o), none =>
        (settle given pending).bind fun given => readFrom given (some ⟨o, none⟩) args
    | .short letters =>
      match letters.head?.bind letter? with
      | none => .error .unknownArgument
      | some refusal => (settle given pending).bind fun _ => .error refusal
    | .plain =>
      match pending with
      | some ⟨o, none⟩ => readFrom given (some ⟨o, some arg⟩) args
      | _ => .error .unknownArgument

/-- The overrides that the arguments of the program give. -/
def read (args : List String) : Except Refusal Overrides := readFrom .none none args

end CommandLine

end Workspaces
