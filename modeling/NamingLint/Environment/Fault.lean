import NamingLint.FileSystem.Resolve

/-!
Why a file of variables could not be loaded, or not to its end.
-/

namespace NamingLint.Environment

inductive LoadFault where
  | missing
  | unreadable (fault : Fault)
  | notUtf8
  | malformed (text : List Char) (index : Nat)
  deriving Repr, DecidableEq

def LoadFault.message : LoadFault → String
  | missing => "path not found"
  | unreadable fault => fault.message
  | notUtf8 => "stream did not contain valid UTF-8"
  | malformed text index =>
      "Error parsing line: '" ++ String.ofList text ++ "', error at line index: " ++ toString index

end NamingLint.Environment
