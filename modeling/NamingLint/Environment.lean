import NamingLint.Text.Pieces
import NamingLint.Text.Utf8

/-!
Environment variables by name. A variable that is set is never set again.
-/

namespace NamingLint

abbrev Environment := List (String × String)

namespace Environment

def get? (environment : Environment) (name : String) : Option String :=
  environment.lookup name

def setAbsent (environment : Environment) (name value : String) : Environment :=
  match environment.get? name with
  | some _ => environment
  | none => (name, value) :: environment

def ofEntry? (octets : List UInt8) : Option (String × String) := do
  let text ← (Text.Utf8.decode octets).toOption
  match text.dropWhile (· != '=') with
  | '=' :: value => some (String.ofList (text.takeWhile (· != '=')), String.ofList value)
  | _ => none

/-- The variables of a block of entries `NAME=value`, each closed by a zero. -/
def ofBlock (octets : List UInt8) : Environment :=
  (Text.pieces 0 octets).filterMap ofEntry?

end Environment
end NamingLint
