import NamingLint.Diagnostic
import NamingLint.Log.Record
import NamingLint.Syntax.Preorder

/-!
Rules. A rule looks at the nodes of one tree in document order and carries a state of its own type
from node to node; the state starts afresh in every tree. Nothing else passes between visits.
-/

namespace NamingLint

open Syntax

structure Visit (State : Type) where
  state : State
  diagnostics : List Diagnostic := []
  log : List Log.Record := []

/-- What a run over a tree leaves behind. -/
structure Findings where
  diagnostics : List Diagnostic := []
  log : List Log.Record := []

def Findings.append (a b : Findings) : Findings :=
  ⟨a.diagnostics ++ b.diagnostics, a.log ++ b.log⟩

instance : Append Findings := ⟨Findings.append⟩

structure Rule : Type 1 where
  id : RuleId
  description : String
  State : Type
  initial : State
  visit : Node → State → Visit State

namespace Rule

def visitAll (rule : Rule) : rule.State → List Node → Findings
  | _, [] => {}
  | state, node :: rest =>
      let seen := rule.visit node state
      ⟨seen.diagnostics, seen.log⟩ ++ rule.visitAll seen.state rest

def check (rule : Rule) (tree : Node) : Findings :=
  rule.visitAll rule.initial tree.nodes

end Rule

structure RuleSet : Type 1 where
  id : String
  rules : List Rule

end NamingLint
