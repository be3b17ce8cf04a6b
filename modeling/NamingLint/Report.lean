import NamingLint.Diagnostic
import NamingLint.Report.Json

/-!
Reports of violations, as lines or as a JSON array, and the summary of a run. Both reports keep the
order of the violations and carry the same data.
-/

namespace NamingLint.Report

inductive Format where
  | plain
  | json
  deriving Repr, DecidableEq

def plain (violations : List Violation) : String :=
  String.join (violations.map fun v => v.line ++ "\n")

def violationJson (v : Violation) : Json.Value :=
  .object
    [("file", .text v.file),
     ("line", .number v.position.line.toNat),
     ("column", .number v.position.column.toNat),
     ("rule", .text v.rule.display),
     ("message", .text v.message),
     ("auto_correctable", .bool v.autoCorrectable)]

def json (violations : List Violation) : String :=
  (Json.Value.array (violations.map violationJson)).render ++ "\n"

def render : Format → List Violation → String
  | .plain => plain
  | .json => json

def summary (violations linted skipped : Nat) : String :=
  let line :=
    toString violations ++ " violation(s) in " ++ toString linted ++ " file(s)"
  if skipped > 0 then line ++ ", " ++ toString skipped ++ " skipped" else line

end NamingLint.Report
