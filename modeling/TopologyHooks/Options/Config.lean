import TopologyHooks.Message.Status
import TopologyHooks.Options.SocketAddress
import TopologyHooks.RequestError
import TopologyHooks.Text.Blank
import TopologyHooks.Text.Lowercase

/-!
# Configuration

* `Config` — how an extension is to be run, with its defaults.
* `Config.listener`, `Config.validate` — how the extension is reached, and the first thing wrong
  with a configuration that each value on its own does not show.
-/

set_option autoImplicit false

namespace TopologyHooks

/-- How log lines look. -/
inductive LogFormat
  | json
  | text
  deriving DecidableEq

namespace LogFormat

/-- The name of a log format. -/
def name : LogFormat → String
  | json => "Json"
  | text => "Text"

/-- The log format that a text names, in letters of any case. -/
def parse (s : String) : Except String LogFormat :=
  let word := Text.lowercase s
  if word = "json" then .ok json
  else if word = "text" then .ok text
  else .error ("unknown log format '" ++ word ++ "', expected json or text")

end LogFormat

/-- How an extension is reached. -/
inductive Listener
  | http
  | https (certificate key : String)
  deriving DecidableEq

/-- How an extension is to be run. -/
structure Config where
  bindAddress : SocketAddress
  tlsCertFile : Option String
  tlsKeyFile : Option String
  insecureHttp : Bool
  timeoutSeconds : Unsigned32
  failurePolicy : FailurePolicy
  defaultRegistryMirror : Option String
  retryAfterSeconds : Signed32
  logFormat : LogFormat
  deriving DecidableEq

namespace Config

/-- The port on which an extension is reached. -/
def defaultPort : UInt16 := 9443

/-- The time that callers wait for an answer, in seconds. -/
def defaultTimeout : Unsigned32 := ⟨10, by decide⟩

/-- The name under which an extension logs. -/
def serviceName : String := "trellis"

/-- Which log lines are written. -/
def logFilter : String := "info,trellis=debug,kube=info,tower=warn,hyper=warn"

/-- The configuration without any option. -/
def default : Config where
  bindAddress := .v4 0 0 0 0 defaultPort
  tlsCertFile := none
  tlsKeyFile := none
  insecureHttp := false
  timeoutSeconds := defaultTimeout
  failurePolicy := .fail
  defaultRegistryMirror := none
  retryAfterSeconds := ⟨10, by decide⟩
  logFormat := .json

/-- The longest time that callers may be told to wait, in seconds. -/
def maxTimeoutSeconds : Int := 30

/-- How the extension is reached. -/
def listener (c : Config) : Except RequestError Listener :=
  if c.insecureHttp then .ok .http
  else
    match c.tlsCertFile, c.tlsKeyFile with
    | some certificate, some key => .ok (.https certificate key)
    | _, _ => .error (.config .missingFiles)

/-- The first thing wrong with a configuration. -/
def validate (c : Config) : Except RequestError Unit :=
  let seconds := c.timeoutSeconds.val
  if seconds = 0 ∨ maxTimeoutSeconds < seconds then
    .error (.config (.timeoutOutOfRange seconds.toNat))
  else if c.retryAfterSeconds.val ≤ 0 then .error (.config .retryNotPositive)
  else if c.defaultRegistryMirror.any fun url => Text.trimmed url == "" then
    .error (.config (.emptySetting "default-registry-mirror"))
  else c.listener.map fun _ => ()

/-- The time that callers wait for an answer, in milliseconds. -/
def timeoutMillis (c : Config) : Int := c.timeoutSeconds.val * 1000

end Config

end TopologyHooks
