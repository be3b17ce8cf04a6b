import NamingLint.Command.Check
import NamingLint.Command.Parser
import NamingLint.Environment.Loading
import NamingLint.Rule.Listing

/-!
A whole run as a function of the file system, the environment and the arguments. Variables are
loaded first, then the arguments are read; log settings touch nothing but the error stream.
-/

namespace NamingLint.Command

def lines (texts : List String) : String :=
  String.join (texts.map (· ++ "\n"))

def rulesResponse (fs : FileSystem) (requested : Option Path) : Response :=
  let log := configLog fs requested
  match loadConfig fs requested [] with
  | .error e => Response.failure log e.message
  | .ok config => { log, output := lines (ruleListing RuleSet.shipped config) }

def respond (fs : FileSystem) : Command → Response
  | .check options => checkResponse fs options
  | .rules requested => rulesResponse fs requested

/-- The log settings: of two variables the first that is set, else the level that goes with the
command. Settings that cannot be read are passed over. -/
def logFilter (environment : Environment) (verbose : Bool) : Log.Filter :=
  let requested := environment.get? "KOLINT_LOG" <|> environment.get? "RUST_LOG"
  (requested.bind Log.Filter.parse?).getD (.ofLevel (if verbose then .debug else .warn))

def environmentLog : Option Environment.LoadFault → List Log.Record
  | none => []
  | some fault =>
      [{ level := .debug, source := .command, message := ".env not loaded",
         fields := [("error", .bare fault.message)] }]

def usageOutcome (e : UsageError) : Outcome where
  exitCode := e.exitCode
  output := if e = .helpRequested then e.message ++ "\n" else ""
  notes := if e = .helpRequested then [] else ["error: " ++ e.message]

def run (fs : FileSystem) (environment : Environment) (arguments : List NativeText) : Outcome :=
  let (environment, fault) := Environment.load fs environment
  match parse arguments with
  | .error e => usageOutcome e
  | .ok command =>
      let response := respond fs command
      let response := { response with log := environmentLog fault ++ response.log }
      response.outcome (logFilter environment command.verbose)

end NamingLint.Command
