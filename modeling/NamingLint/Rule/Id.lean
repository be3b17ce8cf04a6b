/-!
Rule identifiers, written `set:rule`. A text names a rule by its written form or, if it has no
colon, by the rule's own name; it is split at its first colon.
-/

namespace NamingLint

structure RuleId where
  set : String
  rule : String
  deriving Repr, DecidableEq

namespace RuleId

def display (id : RuleId) : String :=
  id.set ++ ":" ++ id.rule

/-- The parts before and after the first colon. -/
def splitAtColon : List Char → Option (List Char × List Char)
  | [] => none
  | ':' :: rest => some ([], rest)
  | c :: rest => (splitAtColon rest).map fun (before, after) => (c :: before, after)

def isNamed (id : RuleId) (name : String) : Bool :=
  match splitAtColon name.toList with
  | some (set, rule) => set == id.set.toList && rule == id.rule.toList
  | none => name == id.rule

end RuleId
end NamingLint
