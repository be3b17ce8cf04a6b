import NamingLint.Config
import NamingLint.Rule.Basic
import NamingLint.SourceFile

/-!
The enabled rules of a configuration, run rule by rule over one tree at a time. An engine holds no
state of a file, so what it says about a file does not depend on the files before it.
-/

namespace NamingLint

structure Engine : Type 1 where
  rules : List Rule

namespace Engine

def allRules (sets : List RuleSet) : List Rule :=
  sets.flatMap RuleSet.rules

def ofSets (sets : List RuleSet) (config : Config) : Engine :=
  ⟨(allRules sets).filter fun rule => config.enables rule.id⟩

/-- One record for each rule that the configuration leaves out. -/
def setupLog (sets : List RuleSet) (config : Config) : List Log.Record :=
  ((allRules sets).filter fun rule => !config.enables rule.id).map fun rule =>
    { level := .debug, source := .engine, message := "rule disabled",
      fields := [("rule", .bare rule.id.display)] }

def ruleIds (engine : Engine) : List RuleId :=
  engine.rules.map Rule.id

def isEmpty (engine : Engine) : Bool :=
  engine.rules.isEmpty

def check (engine : Engine) (tree : Syntax.Node) : Findings :=
  engine.rules.foldr (fun rule found => rule.check tree ++ found) {}

def violations (engine : Engine) (file : SourceFile) : List Violation :=
  (engine.check file.tree).diagnostics.map fun d => d.locate file.path file.text

def fileLog (engine : Engine) (file : SourceFile) : List Log.Record :=
  let found := engine.check file.tree
  found.log ++
    [{ level := .debug, source := .engine, message := "linted",
       fields := [("file", .bare file.path), ("violations", .count found.diagnostics.length)] }]

end Engine
end NamingLint
