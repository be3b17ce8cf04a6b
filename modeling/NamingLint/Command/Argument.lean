import NamingLint.Text.Native

/-!
The shapes of a single argument: two dashes alone, a long option with or without an attached value,
a group of short flags, or a word. A dash alone and an empty text are words.
-/

namespace NamingLint

inductive Argument where
  | separator
  | long (name : NativeText) (attached : Option NativeText)
  | short (letters : List UInt8)
  | word
  deriving Repr, DecidableEq

namespace Argument

@[match_pattern] abbrev dash : UInt8 := 0x2D

abbrev equals : UInt8 := 0x3D

/-- The octets before the first equals sign and, if there is one, those after it. -/
def cutAtEquals : List UInt8 → List UInt8 × Option (List UInt8)
  | [] => ([], none)
  | octet :: rest =>
      if octet = equals then ([], some rest)
      else
        let (name, attached) := cutAtEquals rest
        (octet :: name, attached)

def ofOctets : List UInt8 → Argument
  | [dash, dash] => separator
  | dash :: dash :: rest =>
      let (name, attached) := cutAtEquals rest
      long ⟨name⟩ (attached.map NativeText.mk)
  | dash :: octet :: rest => short (octet :: rest)
  | _ => word

def ofText (text : NativeText) : Argument :=
  ofOctets text.octets

end Argument
end NamingLint
