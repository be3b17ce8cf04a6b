import NamingLint.Text.Utf8

/-!
Texts as a system hands them over: octets, which are UTF-8 as a rule but need not be. The names of
entries, paths and arguments are such texts. A text of characters stands for its UTF-8 octets.
-/

namespace NamingLint

structure NativeText where
  octets : List UInt8
  deriving Repr, DecidableEq

namespace NativeText

def ofText (text : String) : NativeText :=
  ⟨text.toList.flatMap String.utf8EncodeChar⟩

instance : Coe String NativeText := ⟨ofText⟩

instance : Append NativeText := ⟨fun a b => ⟨a.octets ++ b.octets⟩⟩

/-- The characters, if the octets are UTF-8. -/
def text? (text : NativeText) : Option String :=
  match Text.Utf8.decode text.octets with
  | .ok chars => some (String.ofList chars)
  | .error _ => none

/-- What is shown of the text; octets that are no UTF-8 give way to replacement characters. -/
def lossy (text : NativeText) : String :=
  String.ofList (Text.Utf8.decodeLossy text.octets)

end NativeText
end NamingLint
