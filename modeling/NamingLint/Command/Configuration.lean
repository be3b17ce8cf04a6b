import NamingLint.Config.Loading

/-!
The configuration of a command: a file that is named, or the default file of the working directory,
with the rules that the command line switches off put last.
-/

namespace NamingLint.Command

def defaultConfig : Path := ⟨"kolint.toml"⟩

def describeConfig : Option Path → String
  | some path => "config " ++ path.shown
  | none => defaultConfig.shown

structure ConfigFailure where
  requested : Option Path
  cause : ConfigError
  deriving Repr, DecidableEq

def ConfigFailure.message (e : ConfigFailure) : String :=
  "Failed to load " ++ describeConfig e.requested ++ ": " ++ e.cause.chain

def loadConfig (fs : FileSystem) (requested : Option Path) (disable : List String) :
    Except ConfigFailure Config :=
  let loaded :=
    match requested with
    | some path => Config.load fs path
    | none => Config.loadOrDefault fs defaultConfig
  match loaded with
  | .ok config => .ok (config.disable disable)
  | .error cause => .error { requested, cause }

def configLog (fs : FileSystem) : Option Path → List Log.Record
  | some _ => []
  | none => Config.defaultsLog fs defaultConfig

end NamingLint.Command
