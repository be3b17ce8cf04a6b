import NamingLint.Position
import NamingLint.Rule.Id

/-!
Findings. A diagnostic is what a rule says about an offset of a tree; a violation is the same
finding with its file and its position in it.
-/

namespace NamingLint

structure Diagnostic where
  rule : RuleId
  offset : UInt32
  message : String
  autoCorrectable : Bool
  deriving Repr, DecidableEq

structure Violation where
  file : String
  position : Position
  rule : RuleId
  message : String
  autoCorrectable : Bool
  deriving Repr, DecidableEq

def Diagnostic.locate (d : Diagnostic) (file : String) (source : List Char) : Violation :=
  { file
    position := Position.ofOffset source d.offset
    rule := d.rule
    message := d.message
    autoCorrectable := d.autoCorrectable }

/-- One line of the plain report, without its end. -/
def Violation.line (v : Violation) : String :=
  v.file ++ ":" ++ toString v.position.line ++ ":" ++ toString v.position.column ++ ": " ++
    v.message ++ " (" ++ v.rule.display ++ ")"

end NamingLint
