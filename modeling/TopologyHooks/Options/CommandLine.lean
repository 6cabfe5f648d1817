import TopologyHooks.Options.Config

/-!
# Options on the command line

* `OptionKey` — the options, each with its name and the variable of the environment that stands
  for it, and `OptionKey.assign`, which reads its value.
* `CommandLine.parse` — the configuration of a command line and an environment. Arguments are
  taken one after the other. The value of an option is the rest of its argument after an equals
  sign, or the next argument; in the second case it is read when the next option is met, or at the
  end. The environment counts only for options that the command line does not give.
-/

set_option autoImplicit false

namespace TopologyHooks

/-- Why a command line is not carried out. -/
inductive CommandLine.Problem
  | unknownArgument
  | invalidValue
  | valueValidation
  | argumentConflict
  | tooManyValues
  | displayHelp
  | displayVersion
  deriving DecidableEq

/-- An option. -/
inductive OptionKey
  | bindAddress
  | tlsCertFile
  | tlsKeyFile
  | insecureHttp
  | timeoutSeconds
  | failurePolicy
  | defaultRegistryMirror
  | retryAfterSeconds
  | logFormat
  deriving DecidableEq

namespace OptionKey

/-- All options. -/
def all : List OptionKey :=
  [bindAddress, tlsCertFile, tlsKeyFile, insecureHttp, timeoutSeconds, failurePolicy,
    defaultRegistryMirror, retryAfterSeconds, logFormat]

/-- The name of an option, without dashes in front. -/
def name : OptionKey → String
  | bindAddress => "bind-address"
  | tlsCertFile => "tls-cert-file"
  | tlsKeyFile => "tls-key-file"
  | insecureHttp => "insecure-http"
  | timeoutSeconds => "timeout-seconds"
  | failurePolicy => "failure-policy"
  | defaultRegistryMirror => "default-registry-mirror"
  | retryAfterSeconds => "retry-after-seconds"
  | logFormat => "log-format"

/-- The variable of the environment that stands for an option. -/
def environmentName : OptionKey → String
  | bindAddress => "TRELLIS_BIND_ADDRESS"
  | tlsCertFile => "TRELLIS_TLS_CERT_FILE"
  | tlsKeyFile => "TRELLIS_TLS_KEY_FILE"
  | insecureHttp => "TRELLIS_INSECURE_HTTP"
  | timeoutSeconds => "TRELLIS_TIMEOUT_SECONDS"
  | failurePolicy => "TRELLIS_FAILURE_POLICY"
  | defaultRegistryMirror => "TRELLIS_DEFAULT_REGISTRY_MIRROR"
  | retryAfterSeconds => "TRELLIS_RETRY_AFTER_SECONDS"
  | logFormat => "TRELLIS_LOG_FORMAT"

/-! ## Values -/

open CommandLine

/-- The natural number that digits stand for. -/
def naturalOf? (cs : List Char) : Option Nat :=
  if cs.isEmpty || !cs.all Char.isDigit then none
  else some (cs.foldl (fun n c => n * 10 + (c.toNat - 48)) 0)

/-- The integer that a text stands for; it may have a sign. -/
def integerOf? (s : String) : Option Int :=
  match s.toList with
  | '+' :: cs => (naturalOf? cs).map Int.ofNat
  | '-' :: cs => (naturalOf? cs).map fun n => -(n : Int)
  | cs => (naturalOf? cs).map Int.ofNat

/-- An integer between bounds. -/
def boundedOf {low high : Int} (s : String) : Except Problem (Bounded low high) :=
  match (integerOf? s).bind Bounded.ofInt? with
  | some n => .ok n
  | none => .error .valueValidation

/-- The name of a file, which is not empty. -/
def fileOf (s : String) : Except Problem String :=
  if s == "" then .error .invalidValue else .ok s

/-- A configuration with the value of an option. -/
def assign (key : OptionKey) (value : String) (c : Config) : Except Problem Config :=
  match key with
  | bindAddress =>
    match SocketAddress.parse? value with
    | some a => .ok { c with bindAddress := a }
    | none => .error .valueValidation
  | tlsCertFile => (fileOf value).map fun f => { c with tlsCertFile := some f }
  | tlsKeyFile => (fileOf value).map fun f => { c with tlsKeyFile := some f }
  | insecureHttp =>
    if value == "true" then .ok { c with insecureHttp := true }
    else if value == "false" then .ok { c with insecureHttp := false }
    else .error .invalidValue
  | timeoutSeconds => (boundedOf value).map fun n => { c with timeoutSeconds := n }
  | failurePolicy =>
    if value == "fail" then .ok { c with failurePolicy := .fail }
    else if value == "ignore" then .ok { c with failurePolicy := .ignore }
    else .error .invalidValue
  | defaultRegistryMirror => .ok { c with defaultRegistryMirror := some value }
  | retryAfterSeconds => (boundedOf value).map fun n => { c with retryAfterSeconds := n }
  | logFormat =>
    match LogFormat.parse value with
    | .ok f => .ok { c with logFormat := f }
    | .error _ => .error .valueValidation

end OptionKey

namespace CommandLine

/-! ## Arguments -/

/-- What has been taken from a command line so far. -/
structure Progress where
  config : Config
  /-- The options whose values are in the configuration. -/
  given : List OptionKey
  /-- An option whose value is not read yet, with that value if it has been met. -/
  pending : Option (OptionKey × Option String)
  /-- Whether two dashes alone have been met. -/
  closed : Bool

/-- What a long argument without its dashes means. -/
inductive Long
  | option (key : OptionKey)
  | flag (key : OptionKey)
  | help
  | version
  | unknown

/-- The meaning of a long argument. -/
def long (name : String) : Long :=
  if name == "help" then .help
  else if name == "version" then .version
  else
    match OptionKey.all.find? fun k => k.name == name with
    | some .insecureHttp => .flag .insecureHttp
    | some key => .option key
    | none => .unknown

/-- Puts the value of an option into the configuration. -/
def store (p : Progress) (key : OptionKey) (value : String) : Except Problem Progress :=
  if key ∈ p.given then .error .argumentConflict
  else (key.assign value p.config).map fun c => { p with config := c, given := key :: p.given }

/-- Reads the value of the pending option. -/
def resolve (p : Progress) : Except Problem Progress :=
  match p.pending with
  | none => .ok p
  | some (_, none) => .error .invalidValue
  | some (key, some value) => store { p with pending := none } key value

/-- Takes a long argument, possibly with a value attached. -/
def takeLong (p : Progress) (name : String) (attached : Option String) :
    Except Problem Progress :=
  match long name, attached with
  | .unknown, _ => .error .unknownArgument
  | .flag _, some _ | .help, some _ | .version, some _ => .error .tooManyValues
  | .flag key, none => (resolve p).bind (store · key "true")
  | .help, none => (resolve p).bind fun _ => .error .displayHelp
  | .version, none => (resolve p).bind fun _ => .error .displayVersion
  | .option key, some value => (resolve p).bind (store · key value)
  | .option key, none => (resolve p).map fun p => { p with pending := some (key, none) }

/-- Takes an argument that is no option. -/
def takeValue (p : Progress) (arg : String) : Except Problem Progress :=
  match p.pending with
  | some (key, none) => .ok { p with pending := some (key, some arg) }
  | _ => .error .unknownArgument

/-- Splits a text at its first equals sign. -/
def splitEquals (cs : List Char) : String × Option String :=
  let name := String.ofList (cs.takeWhile (· != '='))
  match cs.dropWhile (· != '=') with
  | [] => (name, none)
  | _ :: value => (name, some (String.ofList value))

/-- Takes an argument. -/
def take (p : Progress) (arg : String) : Except Problem Progress :=
  if p.closed then .error .unknownArgument
  else
    match arg.toList with
    | ['-', '-'] => .ok { p with closed := true }
    | '-' :: '-' :: cs =>
      let (name, attached) := splitEquals cs
      takeLong p name attached
    | '-' :: 'h' :: _ => (resolve p).bind fun _ => .error .displayHelp
    | '-' :: 'V' :: _ => (resolve p).bind fun _ => .error .displayVersion
    | '-' :: _ :: _ => .error .unknownArgument
    | _ => takeValue p arg

/-- Takes arguments in order. -/
def takeAll (p : Progress) : List String → Except Problem Progress
  | [] => .ok p
  | arg :: rest =>
    match take p arg with
    | .ok p => takeAll p rest
    | .error e => .error e

/-! ## Environment -/

/-- Takes the values of options that are not given from the environment. -/
def takeEnvironment (environment : String → Option String) :
    List OptionKey → Progress → Except Problem Progress
  | [], p => .ok p
  | key :: rest, p =>
    match environment key.environmentName with
    | none => takeEnvironment environment rest p
    | some value =>
      if key ∈ p.given then takeEnvironment environment rest p
      else
        match store p key value with
        | .ok p => takeEnvironment environment rest p
        | .error e => .error e

/-- The configuration of a command line and an environment. -/
def parse (args : List String) (environment : String → Option String) :
    Except Problem Config :=
  match takeAll ⟨.default, [], none, false⟩ args with
  | .error e => .error e
  | .ok p =>
    match resolve p with
    | .error e => .error e
    | .ok p => (takeEnvironment environment OptionKey.all p).map Progress.config

end CommandLine

end TopologyHooks
