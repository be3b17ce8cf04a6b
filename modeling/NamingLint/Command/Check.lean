import NamingLint.Command
import NamingLint.Command.Configuration
import NamingLint.Command.Outcome
import NamingLint.Discovery
import NamingLint.Engine
import NamingLint.FileSystem.Display
import NamingLint.Rule.Sets
import NamingLint.SourceFile.Loading

/-!
The check command. Every file that is found is looked at on its own; one that cannot be read is
skipped and counted. Nothing is reported when the configuration or a root is missing.
-/

namespace NamingLint.Command

/-- What was found in one file. -/
inductive Inspection where
  | linted (violations : List Violation) (log : List Log.Record)
  | skipped (path : Path) (error : SourceError)

namespace Inspection

def violations : Inspection → List Violation
  | linted violations _ => violations
  | skipped _ _ => []

def isLinted : Inspection → Bool
  | linted _ _ => true
  | skipped _ _ => false

def log : Inspection → List Log.Record
  | linted _ log => log
  | skipped path error =>
      [{ level := .warn, source := .command, message := "skipped",
         fields := [("path", .bare path.shown), ("error", .bare error.message)] }]

end Inspection

/-- A file is reported under its name relative to the working directory. -/
def inspect (fs : FileSystem) (engine : Engine) (path : Path) : Inspection :=
  match SourceFile.load fs path with
  | .error error => .skipped path error
  | .ok file =>
      let shown := { file with path := fs.displayFrom (some fs.workingDirectory) path }
      .linted (engine.violations shown) (file.parsedRecord :: engine.fileLog shown)

/-- The response to a check of files, `log` being what was logged before. -/
def report (log : List Log.Record) (format : Report.Format) (inspections : List Inspection) :
    Response :=
  let violations := inspections.flatMap Inspection.violations
  let linted := inspections.countP Inspection.isLinted
  let skipped := inspections.countP fun i => !i.isLinted
  { log := log ++ inspections.flatMap Inspection.log
    output := Report.render format violations
    notes :=
      match format with
      | .plain => [Report.summary violations.length linted skipped]
      | .json => []
    exitCode := if violations.isEmpty then 0 else Response.exitViolations }

def defaultRoots : List Path := [⟨"."⟩]

def checkFiles (fs : FileSystem) (config : Config) (log : List Log.Record) (format : Report.Format)
    (paths : List Path) : Response :=
  let roots := if paths.isEmpty then defaultRoots else paths
  let log := log ++ Discovery.walkLog fs config roots
  match Discovery.files fs config roots with
  | .error e => Response.failure log e.message
  | .ok files =>
      let engine := Engine.ofSets RuleSet.shipped config
      report (log ++ Engine.setupLog RuleSet.shipped config) format (files.map (inspect fs engine))

def checkResponse (fs : FileSystem) (options : CheckOptions) : Response :=
  let log := configLog fs options.config
  match loadConfig fs options.config options.disable with
  | .error e => Response.failure log e.message
  | .ok config => checkFiles fs config log options.format options.paths

end NamingLint.Command
