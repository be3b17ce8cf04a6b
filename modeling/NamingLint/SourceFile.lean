import NamingLint.Position
import NamingLint.Syntax.Node

/-!
A source text with the name it is reported under and the tree that was read from it.
-/

namespace NamingLint

structure SourceFile where
  path : String
  text : List Char
  tree : Syntax.Node

def SourceFile.position (file : SourceFile) (offset : UInt32) : Position :=
  Position.ofOffset file.text offset

end NamingLint
