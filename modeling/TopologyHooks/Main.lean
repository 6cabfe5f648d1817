import TopologyHooks.Extension
import TopologyHooks.Options.CommandLine
import TopologyHooks.Web.Line

/-!
# Command line

The program reads its options, refuses a configuration with something wrong, and then answers the
requests on its standard input, one a line. Where a handler writes to a cluster, the request to
the API server is put out first, and the next line of the input is the answer to it.
-/

set_option autoImplicit false

namespace TopologyHooks

namespace CommandLine

/-- How an option is given. -/
def usageLine (key : OptionKey) : String :=
  match long key.name with
  | .flag _ => "  --" ++ key.name
  | _ => "  --" ++ key.name ++ " <value>"

/-- How the program is used. -/
def usage : String :=
  "Usage: " ++ Config.serviceName ++ " [options]\n"
    ++ "\n".intercalate (OptionKey.all.map fun key =>
      usageLine key ++ "  [" ++ key.environmentName ++ "]")

/-- Why the options are refused. -/
def Problem.message : Problem → String
  | .unknownArgument => "unknown argument"
  | .invalidValue => "a value is missing or is not one of those allowed"
  | .valueValidation => "a value cannot be read"
  | .argumentConflict => "an option is given twice"
  | .tooManyValues => "a flag is given a value"
  | .displayHelp => usage
  | .displayVersion => Config.serviceName

/-- Whether the user asked for no more than a text. -/
def Problem.isQuestion : Problem → Bool
  | .displayHelp | .displayVersion => true
  | _ => false

end CommandLine

namespace Main

/-- The values of the environment that stand for options. -/
def environment : IO (List (String × String)) :=
  OptionKey.all.filterMapM fun key => do
    let value ← IO.getEnv key.environmentName
    return value.map fun v => (key.environmentName, v)

/-- Puts out a line. -/
def putLine (line : String) : IO Unit := do
  let output ← IO.getStdout
  output.putStrLn line
  output.flush

/-- Reads a line; at the end of the input there is none. -/
def readLine? : IO (Option String) := do
  let input ← IO.getStdin
  let line ← input.getLine
  return if line.isEmpty then none else some line

/-- Sends a write to the API server and takes its answer. -/
def send (w : Write) : IO (Except Error Unit) :=
  match ClusterApi.request w with
  | .error e => return .error (.kube e)
  | .ok r => do
    putLine r.toLine
    match (← readLine?).map ClusterApi.Response.ofLine with
    | some (.ok answer) => return (ClusterApi.outcome answer).mapError .kube
    | some (.error f) => return .error (.kube (.unreadable f))
    | none => return .error (.kube .endlessLine)

/-- Carries a plan out. -/
def perform {α : Type} : Plan α → IO α
  | .answer a => return a
  | .write w next => do perform (next (← send w))

/-- The answer to a line. -/
def answer (t : EndpointTable) (line : String) : IO Web.Response :=
  match Web.Request.ofLine line with
  | .ok r => perform (Web.respond t r)
  | .error f => return Web.errorResponse (.badRequest f)

/-- Answers requests until the input ends. -/
partial def serve (t : EndpointTable) : IO Unit := do
  match ← readLine? with
  | none => return ()
  | some line =>
    putLine (← answer t line).toLine
    serve t

/-- Refuses to run. -/
def refuse (code : UInt32) (message : String) : IO UInt32 := do
  let errors ← IO.getStderr
  errors.putStrLn message
  return code

/-- Runs the extension with a configuration. -/
def run (c : Config) : IO UInt32 :=
  match c.validate with
  | .error e => refuse 1 e.message
  | .ok () =>
    match Extension.endpoints c with
    | .error e => refuse 1 e.message
    | .ok t => do
      serve t
      return 0

/-- Runs the extension with the options of a command line and of the environment. -/
def start (args : List String) : IO UInt32 := do
  let given ← environment
  match CommandLine.parse args fun name => given.lookup name with
  | .ok c => run c
  | .error p =>
    if p.isQuestion then
      putLine p.message
      return 0
    else refuse 2 p.message

end Main

end TopologyHooks

/-- The program. -/
def main (args : List String) : IO UInt32 := TopologyHooks.Main.start args
