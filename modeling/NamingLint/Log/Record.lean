import NamingLint.Text.Quoted

/-!
Log records: a level, the part of the program that speaks, a message and named values. Texts are
written quoted or bare as the record says.
-/

namespace NamingLint.Log

inductive Level where
  | error
  | warn
  | info
  | debug
  | trace
  deriving Repr, DecidableEq

/-- A greater verbosity lets more through. -/
def Level.verbosity : Level → Nat
  | .error => 1
  | .warn => 2
  | .info => 3
  | .debug => 4
  | .trace => 5

def Level.name : Level → String
  | .error => "ERROR"
  | .warn => "WARN"
  | .info => "INFO"
  | .debug => "DEBUG"
  | .trace => "TRACE"

inductive Source where
  | command
  | configuration
  | frontEnd
  | engine
  | functionNaming
  deriving Repr, DecidableEq

/-- The path by which filters select the source. -/
def Source.target : Source → String
  | .command => "kolint"
  | .configuration => "common::config"
  | .frontEnd => "anatomist::kotlin"
  | .engine => "ruleset::engine"
  | .functionNaming => "ruleset::function_naming"

inductive Value where
  | quoted (text : String)
  | bare (text : String)
  | count (n : Nat)
  deriving Repr, DecidableEq

def Value.render : Value → String
  | .quoted text => Text.quote text
  | .bare text => text
  | .count n => toString n

structure Record where
  level : Level
  source : Source
  message : String
  fields : List (String × Value) := []
  deriving Repr, DecidableEq

def Record.render (r : Record) : String :=
  " ".intercalate
    (r.level.name :: r.message :: r.fields.map fun (name, value) => name ++ "=" ++ value.render)

end NamingLint.Log
