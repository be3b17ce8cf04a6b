import NamingLint.Environment.Assignment
import NamingLint.Environment.Statement

/-!
Variables from the file `.env` of the working directory or of the nearest directory above it that
has one. They are set in the order of the file up to its first fault, and those before it stay set.
-/

namespace NamingLint.Environment

def fileName : NativeText := ".env"

/-- A location and those above it, the root last. -/
def ancestors (location : Location) : List Location :=
  (List.range (location.length + 1)).map fun n => location.take (location.length - n)

/-- The first file with the name among directories. What is no file is passed over, a fault other
than absence is not. -/
def findFile (fs : FileSystem) : List Location → Except LoadFault (List UInt8)
  | [] => .error .missing
  | directory :: above =>
      match fs.resolveWithin FileSystem.linkLimit directory [fileName] with
      | .error .notFound => findFile fs above
      | .error fault => .error (.unreadable fault)
      | .ok location =>
          match fs.entry? location with
          | some (.file octets) => .ok octets
          | some .sealedFile => .error (.unreadable .denied)
          | some _ | none => findFile fs above

def assign (environment : Environment) :
    List (Except LoadFault (List Char)) → Environment × Option LoadFault
  | [] => (environment, none)
  | .error fault :: _ => (environment, some fault)
  | .ok statement :: rest =>
      match readAssignment environment statement with
      | .error fault => (environment, some fault)
      | .ok none => assign environment rest
      | .ok (some (name, value)) => assign (environment.setAbsent name value) rest

def load (fs : FileSystem) (environment : Environment) : Environment × Option LoadFault :=
  match findFile fs (ancestors fs.workingDirectory) with
  | .error fault => (environment, some fault)
  | .ok octets => assign environment (statements octets)

end NamingLint.Environment
