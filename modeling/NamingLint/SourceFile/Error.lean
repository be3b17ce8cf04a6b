import NamingLint.FileSystem.Resolve
import NamingLint.Text.Utf8

/-!
Why a file could not be made a source file.
-/

namespace NamingLint

inductive SourceError where
  | unreadable (fault : Fault)
  | tooLarge
  | pathNotUtf8 (shown : String)
  | notUtf8 (path : String) (failure : Text.Utf8.Failure)
  deriving Repr, DecidableEq

def SourceError.message : SourceError → String
  | unreadable fault => "I/O error: " ++ fault.message
  | tooLarge => "Byte range overflow: file size exceeds 4GB limit"
  | pathNotUtf8 shown => "Parse failure: Non-UTF-8 path: " ++ shown
  | notUtf8 path failure => "Parse failure: " ++ path ++ ": not UTF-8: " ++ failure.message

end NamingLint
