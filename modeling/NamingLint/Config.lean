import NamingLint.Rule.Id

/-!
Settings of a run: which rules are off, which file extensions are linted, and which directories a
search does not enter.
-/

namespace NamingLint

structure Config where
  disabledRules : List String := []
  extensions : List String := ["kt", "kts"]
  excludeDirs : List String := ["build", ".gradle", ".git", ".idea", "out", "node_modules"]
  deriving Repr, DecidableEq

namespace Config

def disable (config : Config) (rules : List String) : Config :=
  { config with disabledRules := config.disabledRules ++ rules }

def enables (config : Config) (id : RuleId) : Bool :=
  !config.disabledRules.any id.isNamed

def acceptsExtension (config : Config) (ext : String) : Bool :=
  config.extensions.contains ext

def excludesDir (config : Config) (name : String) : Bool :=
  config.excludeDirs.contains name

end Config
end NamingLint
