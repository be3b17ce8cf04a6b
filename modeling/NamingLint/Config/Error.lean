/-!
Why a configuration could not be had. In a report of the whole chain of causes the cause of a
reading fault comes once more after the fault, which already contains it.
-/

namespace NamingLint

inductive ConfigError where
  | unreadable (reason : String)
  | notFound (path : String)
  | malformed (origin reason : String)
  deriving Repr, DecidableEq

namespace ConfigError

def message : ConfigError → String
  | unreadable reason => "I/O error: " ++ reason
  | notFound path => "Config file not found: " ++ path
  | malformed origin reason => "Config parse error in " ++ origin ++ ": " ++ reason

def cause? : ConfigError → Option String
  | unreadable reason | malformed _ reason => some reason
  | notFound _ => none

def chain (e : ConfigError) : String :=
  ": ".intercalate (e.message :: e.cause?.toList)

end ConfigError
end NamingLint
