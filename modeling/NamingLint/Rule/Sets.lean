import NamingLint.Rule.FunctionName

/-!
The rule sets that come with the linter.
-/

namespace NamingLint.RuleSet

/-- Rules whose defaults are not settled yet. -/
def experimental : RuleSet := ⟨"experimental", [FunctionName.rule]⟩

def shipped : List RuleSet := [experimental]

end NamingLint.RuleSet
