import NamingLint.Engine

/-!
The listing of rules: a line for each rule of the sets, in order, with its identifier, whether the
configuration enables it, and what it is about.
-/

namespace NamingLint

/-- Pads on the right; a longer text stays whole. -/
def padRight (width : Nat) (text : String) : String :=
  text ++ String.ofList (List.replicate (width - text.length) ' ')

def Rule.listingLine (config : Config) (rule : Rule) : String :=
  let state := if config.enables rule.id then "enabled" else "disabled"
  padRight 32 rule.id.display ++ " " ++ padRight 8 state ++ "  " ++ rule.description

def ruleListing (sets : List RuleSet) (config : Config) : List String :=
  (Engine.allRules sets).map fun rule => rule.listingLine config

end NamingLint
