import NamingLint.Log.Filter

/-!
What a run leaves behind. A response holds all log records with the lines that follow them on the
error stream; an outcome is what is left of it under a log filter.
-/

namespace NamingLint

structure Response where
  log : List Log.Record := []
  output : String := ""
  notes : List String := []
  exitCode : UInt8 := 0
  deriving Repr, DecidableEq

structure Outcome where
  exitCode : UInt8
  output : String
  /-- The lines of the error stream. -/
  notes : List String
  deriving Repr, DecidableEq

namespace Response

def exitViolations : UInt8 := 1

def exitError : UInt8 := 2

def failure (log : List Log.Record) (message : String) : Response :=
  { log, notes := ["error: " ++ message], exitCode := exitError }

def outcome (response : Response) (filter : Log.Filter) : Outcome where
  exitCode := response.exitCode
  output := response.output
  notes := (response.log.filter filter.shows).map Log.Record.render ++ response.notes

end Response
end NamingLint
