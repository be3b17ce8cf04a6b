import NamingLint.FileSystem.Path
import NamingLint.Report

/-!
What a user can ask for: a check of files, or the list of rules.
-/

namespace NamingLint

structure CheckOptions where
  paths : List Path := []
  config : Option Path := none
  format : Report.Format := .plain
  disable : List String := []
  verbose : Bool := false
  deriving Repr, DecidableEq

inductive Command where
  | check (options : CheckOptions)
  | rules (config : Option Path)
  deriving Repr, DecidableEq

def Command.verbose : Command → Bool
  | check options => options.verbose
  | rules _ => false

end NamingLint
